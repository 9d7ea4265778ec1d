import VolumePricing.Proofs.Decimal.Spellings
import VolumePricing.Proofs.Service.ServerErrors

/-!
# Costs asked about

A cost is asked about in a query, as a text. What is answered follows from what the fields of the
query give: the cost has to be given once, as something that denotes a double, and the quantity at
most once. Since words for infinity denote doubles, and so do numerals beyond the limit of the
doubles, the cost that is answered need not be a number: such a cost is answered as nothing.
-/

namespace VolumePricing

open VolumePricing.Action
open Http (Request Response)
open Decimal (SpellsWhole Denotes SpellsFinite)

namespace Extract

/-- The values that the query gives for a field. -/
def given (r : Request) (name : String) : List String :=
  ((Text.formFields r.query).filter fun f => f.1 == name).map (·.2)

/-- The quantity that the values given for it come to. -/
inductive AsksQuantity : List String → Int64 → Prop
  | absent : AsksQuantity [] 1
  | number {text : String} {q : Int64} (h : SpellsWhole text.toList q.toInt) :
      AsksQuantity [text] q
  | unreadable {text : String} (h : ∀ q : Int64, ¬ SpellsWhole text.toList q.toInt) :
      AsksQuantity [text] 1

/-- Why a query about a cost is refused. -/
inductive CostRefused (r : Request) : Refusal → Prop
  | repeated {name : String} (hname : name ∈ ["cost_price", "quantity"])
      (h : 1 < (given r name).length) : CostRefused r (.badQuery name)
  | missing (h : ∀ text ∈ given r "cost_price", text = "") : CostRefused r .costMissing
  | unreadable {text : String} (h : given r "cost_price" = [text]) (hne : text ≠ "")
      (hnot : ∀ cost, ¬ Denotes text.toList cost) : CostRefused r .costUnreadable

variable {r : Request} {name : String} {names seen known : List String}

theorem CostRefused.status {refusal : Refusal} (h : CostRefused r refusal) :
    refusal.status = 400 := by
  cases h <;> rfl

/-! ### Fields of a query -/

theorem repeated?_eq_none (h : repeated? seen names = none) :
    names.Nodup ∧ ∀ n ∈ names, n ∉ seen := by
  induction names generalizing seen with
  | nil => simp
  | cons n names ih =>
    unfold repeated? at h
    split at h
    · cases h
    · rename_i hn
      obtain ⟨hnodup, hseen⟩ := ih h
      simp only [List.contains_eq_mem, decide_eq_true_eq] at hn
      refine ⟨List.nodup_cons.mpr ⟨fun hmem => ?_, hnodup⟩, List.forall_mem_cons.mpr ⟨hn, ?_⟩⟩
      · exact hseen n hmem List.mem_cons_self
      · exact fun m hm hs => hseen m hm (List.mem_cons_of_mem n hs)

theorem repeated?_eq_some (h : repeated? seen names = some name) :
    name ∈ names ∧ (name ∈ seen ∨ 1 < names.count name) := by
  induction names generalizing seen with
  | nil => cases h
  | cons n names ih =>
    unfold repeated? at h
    split at h
    · rename_i hn
      cases h
      exact ⟨List.mem_cons_self, Or.inl (by simpa using hn)⟩
    · obtain ⟨hmem, hagain⟩ := ih h
      refine ⟨List.mem_cons_of_mem n hmem, ?_⟩
      by_cases hname : name = n
      · subst hname
        have hcount := List.count_pos_iff.mpr hmem
        rw [List.count_cons_self]
        omega
      · rw [List.count_cons_of_ne (Ne.symm hname)]
        exact hagain.imp_left fun h => (List.mem_cons.mp h).resolve_left hname

/-- The value of a field is the first that is given for it. -/
theorem lookup_eq_head? (fields : List (String × String)) (name : String) :
    fields.lookup name = ((fields.filter fun f => f.1 == name).map (·.2)).head? := by
  induction fields with
  | nil => rfl
  | cons f fields ih =>
    obtain ⟨n, value⟩ := f
    by_cases hname : name = n
    · simp [hname]
    · have hlookup : (name == n) = false := by simpa using hname
      have hfilter : (n == name) = false := by simpa using Ne.symm hname
      rw [List.lookup_cons, hlookup, List.filter_cons_of_neg (by simp [hfilter]), ih]

/-- A field that is known is not lost from the query. -/
theorem filter_known (hname : name ∈ known) (fields : List (String × String)) :
    (fields.filter fun f => known.contains f.1).filter (fun f => f.1 == name) =
      fields.filter fun f => f.1 == name := by
  rw [List.filter_filter]
  refine List.filter_congr fun f _ => ?_
  by_cases h : f.1 = name
  · simp [h, hname]
  · simp [h]

theorem lookup_known (hname : name ∈ known) :
    ((Text.formFields r.query).filter fun f => known.contains f.1).lookup name =
      (given r name).head? := by
  rw [lookup_eq_head?, filter_known hname, given]

theorem count_known (hname : name ∈ known) :
    (((Text.formFields r.query).filter fun f => known.contains f.1).map (·.1)).count name =
      (given r name).length := by
  rw [List.count_eq_countP, List.countP_map, List.countP_eq_length_filter, given, List.length_map,
    ← filter_known hname]
  rfl

/-- Known fields are read when each is given at most once. -/
theorem query_eq (known : List String) (r : Request) :
    (∃ name ∈ known, 1 < (given r name).length ∧ query known r = .error (.badQuery name)) ∨
      ∃ fields, query known r = .ok fields ∧
        ∀ name ∈ known, (given r name).length ≤ 1 ∧ fields.lookup name = (given r name).head? := by
  unfold query
  dsimp only
  cases hrepeated : repeated? [] (((Text.formFields r.query).filter fun f =>
    known.contains f.1).map (·.1)) with
  | none =>
    obtain ⟨hnodup, -⟩ := repeated?_eq_none hrepeated
    refine Or.inr ⟨_, rfl, fun name hname => ⟨?_, lookup_known hname⟩⟩
    rw [← count_known hname]
    exact List.nodup_iff_count_le_one.mp hnodup name
  | some name =>
    obtain ⟨hmem, hcount⟩ := repeated?_eq_some hrepeated
    obtain ⟨f, hf, rfl⟩ := List.mem_map.mp hmem
    have hname : f.1 ∈ known := by simpa using (List.mem_filter.mp hf).2
    refine Or.inl ⟨f.1, hname, ?_, rfl⟩
    rw [← count_known hname]
    exact hcount.resolve_left List.not_mem_nil

/-! ### Costs and quantities -/

/-- A quantity is what the text given for it says in whole, and else one unit. -/
theorem asksQuantity {values : List String} (h : values.length ≤ 1) :
    AsksQuantity values (.ofInt ((values.head?.bind fun q =>
      Decimal.wholeNumber? Int64.minValue.toInt Int64.maxValue.toInt q.toList).getD 1)) := by
  have hlow : Int64.minValue.toInt < 0 := by decide
  match values with
  | [] => exact .absent
  | [text] =>
    rw [List.head?_cons, Option.bind_some]
    cases hread : Decimal.wholeNumber? Int64.minValue.toInt Int64.maxValue.toInt text.toList with
    | none =>
      refine .unreadable fun q hq => ?_
      have hbounds : Int64.minValue.toInt ≤ q.toInt ∧ q.toInt ≤ Int64.maxValue.toInt :=
        ⟨q.minValue_le_toInt, q.toInt_le⟩
      rw [(Decimal.wholeNumber?_eq_some_iff hlow).mpr ⟨hq, hbounds⟩] at hread
      cases hread
    | some n =>
      obtain ⟨hwhole, hmin, hmax⟩ := (Decimal.wholeNumber?_eq_some_iff hlow).mp hread
      have hn : (Int64.ofInt n).toInt = n :=
        Int64.toInt_ofInt_of_le hmin (Int.lt_add_one_of_le hmax)
      exact .number (hn.symm ▸ hwhole)
  | _ :: _ :: _ => simp at h

/-- A query about a cost is refused, or it gives what it is read as. -/
theorem costQuery_eq (r : Request) :
    (∃ refusal, CostRefused r refusal ∧ costQuery r = .error refusal) ∨
      ∃ text q, given r "cost_price" = [text] ∧ Denotes text.toList q.cost ∧
        AsksQuantity (given r "quantity") q.quantity ∧ costQuery r = .ok q := by
  unfold costQuery
  rcases query_eq ["cost_price", "quantity"] r with
    ⟨name, hname, hrepeated, hquery⟩ | ⟨fields, hquery, hfields⟩
  · rw [hquery]
    exact Or.inl ⟨_, .repeated hname hrepeated, rfl⟩
  · obtain ⟨hcosts, hcost⟩ := hfields "cost_price" (by simp)
    obtain ⟨hquantities, hquantity⟩ := hfields "quantity" (by simp)
    have hasked := asksQuantity hquantities
    rw [← hquantity] at hasked
    rw [hquery]
    dsimp only [bind, Except.bind]
    rw [hcost]
    match hgiven : given r "cost_price" with
    | [] => exact Or.inl ⟨_, .missing (by simp [hgiven]), rfl⟩
    | [text] =>
      by_cases hblank : text = ""
      · subst hblank
        exact Or.inl ⟨_, .missing (by simp [hgiven]), rfl⟩
      · rw [List.head?_cons, Option.filter_some_pos (by simpa using hblank)]
        dsimp only
        cases hread : Decimal.freeNumber? text with
        | none =>
          refine Or.inl ⟨_, .unreadable hgiven hblank fun cost hcost => ?_, rfl⟩
          rw [Decimal.freeNumber?_eq_some_iff.mpr hcost] at hread
          cases hread
        | some cost =>
          exact Or.inr ⟨text, _, rfl, Decimal.freeNumber?_eq_some_iff.mp hread, hasked, rfl⟩
    | _ :: _ :: _ => simp [hgiven] at hcosts

/-- Values for the quantity come to one quantity only. -/
theorem AsksQuantity.unique {values : List String} {q q' : Int64} (h : AsksQuantity values q)
    (h' : AsksQuantity values q') : q = q' := by
  cases h with
  | absent =>
    cases h'
    rfl
  | number hq =>
    cases h' with
    | number hq' =>
      have hsame := SpellsWhole.unique hq hq'
      exact Int64.toInt_inj.mp hsame
    | unreadable hnot => exact absurd hq (hnot _)
  | unreadable hnot =>
    cases h' with
    | number hq => exact absurd hq (hnot _)
    | unreadable => rfl

/-- A query that gives a cost and a quantity in time is not refused. -/
theorem CostRefused.not_asked {refusal : Refusal} {text : String} {cost : Float} {q : Int64}
    (h : CostRefused r refusal) (hcost : given r "cost_price" = [text])
    (hdenotes : Denotes text.toList cost) (hquantity : AsksQuantity (given r "quantity") q) :
    False := by
  cases h with
  | repeated hname htwice =>
    simp only [List.mem_cons, List.not_mem_nil, or_false] at hname
    rcases hname with rfl | rfl
    · simp [hcost] at htwice
    · generalize given r "quantity" = values at hquantity htwice
      cases hquantity <;> simp at htwice
  | missing hblank =>
    have htext : text = "" := hblank text (by simp [hcost])
    rw [htext, ← Decimal.freeNumber?_eq_some_iff] at hdenotes
    cases hdenotes
  | unreadable hgiven hne hnot =>
    rw [hcost] at hgiven
    cases hgiven
    exact hnot cost hdenotes

/-- What a query asks for is read. -/
theorem costQuery_of_asked {text : String} {cost : Float} {q : Int64}
    (hcost : given r "cost_price" = [text]) (hdenotes : Denotes text.toList cost)
    (hquantity : AsksQuantity (given r "quantity") q) : costQuery r = .ok ⟨cost, q⟩ := by
  rcases costQuery_eq r with
    ⟨refusal, hrefused, -⟩ | ⟨text', q', hcost', hdenotes', hasks, hquery⟩
  · exact (hrefused.not_asked hcost hdenotes hquantity).elim
  · rw [hcost] at hcost'
    cases hcost'
    rw [hquery, ← hdenotes'.unique hdenotes, ← hasks.unique hquantity]

end Extract

open Extract

namespace Service

variable {σ : Type} {s : Service σ} {r : Request} {moment : Moment} {shop : Shop σ} {store : σ}
  {tiers : List PriceTier}

theorem admitted?_calculate (hget : r.method = "GET")
    (hroute : Route.ofPath? r.path = some .calculate) :
    s.admitted? r moment = some (.calculate, "") := by
  unfold admitted?
  rw [hget, hroute]
  rfl

/-- Where the tiers can be listed, a query about a cost is answered with what it is read as. -/
theorem run_calculate (hlist : s.store.listTiers false shop.store = .ok (.ok tiers, store))
    (user : String) :
    s.run .calculate user r moment shop = .ok (match costQuery r with
      | .error refusal => (.error refusal, shop)
      | .ok q => (.ok (reply (quoteTiers q.cost q.quantity tiers)), { shop with store })) := by
  have hcalculate : ∀ q, s.calculate q shop =
      .ok (.ok (quoteTiers q.cost q.quantity tiers), { shop with store }) := by
    intro q
    unfold calculate listTiers
    rw [run_bind, run_call, hlist]
    rfl
  dsimp only [run]
  cases costQuery r with
  | error refusal => rfl
  | ok q =>
    rw [lift_ok, pure_bind, run_bind, hcalculate]
    rfl

/-- What is replied is sent with its body to whoever asks for one. -/
theorem finished_reply {α : Type} [ToJson α] (hmethod : r.method ≠ "HEAD") (a : α) :
    (finished r (.ok (reply a))).status = 200 ∧
      (finished r (.ok (reply a))).body = .json (encode a) := by
  refine ⟨by rw [finished_status]; rfl, ?_⟩
  unfold finished sealed
  dsimp only
  rw [if_neg hmethod]
  rfl

/-- A query about a cost is answered when the cost is given once, as something that denotes a
double, and the quantity at most once, and it is refused otherwise. The cost is answered as a
number exactly when it was given as a numeral below the limit of the doubles. -/
theorem respond_calculate (hget : r.method = "GET")
    (hroute : Route.ofPath? r.path = some .calculate)
    (hlist : s.store.listTiers false shop.store = .ok (.ok tiers, store)) :
    ∃ response shop', s.respond r moment shop = .ok (response, shop') ∧
      ((∃ refusal, CostRefused r refusal ∧ response = finished r (.error refusal) ∧
          response.status = 400) ∨
        ∃ text cost quantity shown, given r "cost_price" = [text] ∧ Denotes text.toList cost ∧
          AsksQuantity (given r "quantity") quantity ∧ response.status = 200 ∧
          response.body = .json (.object [("cost_price", shown), ("quantity", .int quantity.toInt),
            ("tiers", encode (quoteTiers cost quantity tiers).tiers)]) ∧
          (SpellsFinite text.toList ∧ shown = .real cost ∨
            ¬ SpellsFinite text.toList ∧ shown = .null)) := by
  rw [respond_admitted (admitted?_calculate hget hroute), run_calculate hlist]
  rcases costQuery_eq r with ⟨refusal, hrefused, hquery⟩ |
    ⟨text, q, hgiven, hdenotes, hquantity, hquery⟩ <;> rw [hquery]
  · refine ⟨_, _, rfl, Or.inl ⟨refusal, hrefused, rfl, ?_⟩⟩
    rw [finished_status]
    exact hrefused.status
  · have hmethod : r.method ≠ "HEAD" := by simp [hget]
    obtain ⟨hstatus, hbody⟩ := finished_reply hmethod (quoteTiers q.cost q.quantity tiers)
    refine ⟨_, _, rfl, Or.inr ⟨text, q.cost, q.quantity, .ofFloat q.cost, hgiven, hdenotes,
      hquantity, hstatus, hbody, ?_⟩⟩
    unfold Json.ofFloat
    by_cases hfinite : SpellsFinite text.toList
    · rw [if_pos (hdenotes.isFinite_iff.mpr hfinite)]
      exact Or.inl ⟨hfinite, rfl⟩
    · rw [if_neg (mt hdenotes.isFinite_iff.mp hfinite)]
      exact Or.inr ⟨hfinite, rfl⟩

end Service

namespace Seed

/-- That cost is asked about, of one unit. -/
def asking (cost : String) : Request where
  method := "GET"
  target := "/settings/price-tiers/calculate?cost_price=" ++ cost

theorem listTiers_opened : Memory.store.listTiers false opened =
    .ok (.ok (opened.tiers.list false), opened) := rfl

theorem spells_thousand : Decimal.Spells "1e3".toList false ⟨['1'], [], 3⟩ :=
  Decimal.plainNumeral?_eq_some_iff.mp rfl

theorem denotes_infinite : Denotes "inf".toList (1.0 / 0.0) :=
  Decimal.freeNumber?_eq_some_iff.mp rfl

end Seed

/-- A cost of a thousand, given by its power of ten, is answered as a number. -/
theorem Service.respond_calculate_thousand :
    ∃ response shop' cost rows, (during {} .byName .none).respond (Seed.asking "1e3") ⟨0, 0⟩
        ⟨Seed.opened, .new {}⟩ = .ok (response, shop') ∧
      response.status = 200 ∧ Denotes "1e3".toList cost ∧
      response.body = .json (.object [("cost_price", .real cost), ("quantity", .int 1),
        ("tiers", rows)]) := by
  have hgiven : given (Seed.asking "1e3") "cost_price" = ["1e3"] := by cbv
  have hquantity : given (Seed.asking "1e3") "quantity" = [] := by cbv
  have hone : AsksQuantity (given (Seed.asking "1e3") "quantity") 1 := hquantity ▸ .absent
  have hfinite : SpellsFinite "1e3".toList := ⟨_, _, Seed.spells_thousand, by
    change ((1 : ℕ) : ℚ) * 10 ^ (3 : ℤ) < Decimal.limit
    refine lt_of_lt_of_le ?_ (Decimal.le_limit (u := 0) (by norm_num))
    norm_num⟩
  obtain ⟨response, shop', hrespond, ⟨refusal, hrefused, -⟩ |
    ⟨text, cost, quantity, shown, hcost, hdenotes, hasks, hstatus, hbody, hshown⟩⟩ :=
    @respond_calculate _ (during {} .byName .none) (Seed.asking "1e3") ⟨0, 0⟩
      ⟨Seed.opened, .new {}⟩ _ _ rfl (by cbv) Seed.listTiers_opened
  · exact (hrefused.not_asked hgiven (.numeral Seed.spells_thousand) hone).elim
  · rw [hgiven] at hcost
    cases hcost
    obtain ⟨-, rfl⟩ := hshown.resolve_right fun h => h.1 hfinite
    cases hasks.unique hone
    exact ⟨response, shop', cost, _, hrespond, hstatus, hdenotes, hbody⟩

/-- Infinity is a cost that is answered, but not as a number. -/
theorem Service.respond_calculate_infinite :
    given (Seed.asking "inf") "cost_price" = ["inf"] ∧ ¬ SpellsFinite "inf".toList ∧
      ∃ response shop' members, (during {} .byName .none).respond (Seed.asking "inf") ⟨0, 0⟩
          ⟨Seed.opened, .new {}⟩ = .ok (response, shop') ∧
        response.status = 200 ∧
        response.body = .json (.object (("cost_price", .null) :: members)) := by
  have hgiven : given (Seed.asking "inf") "cost_price" = ["inf"] := by cbv
  have hquantity : given (Seed.asking "inf") "quantity" = [] := by cbv
  have hone : AsksQuantity (given (Seed.asking "inf") "quantity") 1 := hquantity ▸ .absent
  refine ⟨hgiven, ?_, ?_⟩
  · rw [← Seed.denotes_infinite.isFinite_iff]
    decide
  · rw [respond_admitted (admitted?_calculate rfl (by cbv)), run_calculate Seed.listTiers_opened,
      costQuery_of_asked hgiven Seed.denotes_infinite hone]
    obtain ⟨hstatus, hbody⟩ := finished_reply (r := Seed.asking "inf") (by decide)
      (quoteTiers (1.0 / 0.0) 1 (Seed.opened.tiers.list false))
    exact ⟨_, _, _, rfl, hstatus, hbody⟩

end VolumePricing
