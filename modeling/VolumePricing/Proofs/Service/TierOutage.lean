import VolumePricing.Proofs.Service.CartRoutes
import VolumePricing.Proofs.Service.FilledLines
import VolumePricing.Proofs.Summary.Untiered

/-!
# Tiers that cannot be listed

A request about a cart asks for the tiers last, after everything that may refuse
it and after the cart is changed. So where the tiers cannot be listed it comes
to the same, but for the prices that it is answered with and for what the hub
remembers of them.
-/

namespace VolumePricing

open VolumePricing.Action Checked
open Http (Request Response)

/-! ### Two runs side by side -/

namespace Action

variable {ε σ α β γ δ : Type}

/-- Both overflow alike, or both are refused alike in one state, or both answer, and what they come
to is related. -/
inductive Beside (R : α × σ → β × σ → Prop) :
    Except Overflow (Except ε α × σ) → Except Overflow (Except ε β × σ) → Prop
  | overflowed (o : Overflow) : Beside R (.error o) (.error o)
  | refused (e : ε) (s : σ) : Beside R (.ok (.error e, s)) (.ok (.error e, s))
  | answered {a : α} {b : β} {s s' : σ} (h : R (a, s) (b, s')) :
    Beside R (.ok (.ok a, s)) (.ok (.ok b, s'))

variable {R : α × σ → β × σ → Prop} {Q : γ × σ → δ × σ → Prop} {s : σ}

/-- What both begin with alike they may go on from side by side. -/
theorem Beside.after {x : Action ε σ γ} {f : γ → Action ε σ α} {g : γ → Action ε σ β}
    (h : ∀ c s', x s = .ok (.ok c, s') → Beside R (f c s') (g c s')) :
    Beside R ((x >>= f) s) ((x >>= g) s) := by
  rw [run_bind, run_bind]
  rcases hx : x s with o | ⟨e | c, s'⟩
  · exact .overflowed o
  · exact .refused e s'
  · exact h c s' hx

theorem Beside.after_except {x : Except ε γ} {f : γ → Action ε σ α} {g : γ → Action ε σ β}
    (h : ∀ c, x = .ok c → Beside R (f c s) (g c s)) :
    Beside R (((liftM x : Action ε σ γ) >>= f) s) (((liftM x : Action ε σ γ) >>= g) s) := by
  apply Beside.after
  intro c s' hc
  rw [run_except] at hc
  cases hc
  exact h c rfl

/-- What both come to may be worded in the end. -/
theorem Beside.worded {x : Action ε σ γ} {y : Action ε σ δ} {f : γ → α} {g : δ → β}
    (h : Beside Q (x s) (y s)) (hword : ∀ c d s₁ s₂, Q (c, s₁) (d, s₂) → R (f c, s₁) (g d, s₂)) :
    Beside R ((do return f (← x)) s) ((do return g (← y)) s) := by
  rw [run_bind, run_bind]
  generalize x s = p at h
  generalize y s = q at h
  cases h with
  | overflowed o => exact .overflowed o
  | refused e s' => exact .refused e s'
  | answered h => exact .answered (hword _ _ _ _ h)

end Action

/-! ### Outages -/

/-- The outage, and besides that tiers cannot be listed. -/
def Outage.andTiers (o : Outage) : Outage := { o with calls := .listTiers :: o.calls }

/-- The lines are the items, in their order, with what is stored of their products. -/
def Memory.Stocks (m : Memory) (items : List ItemRequest) (lines : List CartLine) : Prop :=
  List.Forall₂ (fun item line => ∃ p place, m.products.get? item.productId = some p ∧
    line = p.guestLine place item.quantity) items lines

/-- The lines that a request has priced: those that it names, or those of the stored cart. -/
def Memory.Priced (m : Memory) (r : Request) (user : String) (lines : List CartLine) :
    Endpoint → Prop
  | .guestPrice => ∃ cart, Extract.body GuestCart r = .ok cart ∧ m.Stocks cart.items lines
  | _ => lines = m.carts.linesOf user

namespace Service

variable {settings : HubSettings} {authority : Authority} {o : Outage} {r : Request}
  {moment : Moment} {endpoint : Endpoint} {user : String} {shop shop' : Shop Memory}
  {c : CartChange}

theorem write_andTiers (user : String) (c : CartChange) :
    (during settings authority o.andTiers).write user c =
      (during settings authority o).write user c := by
  cases c <;> rfl

theorem guestLines_andTiers (place : Nat) (items : List ItemRequest) :
    (during settings authority o.andTiers).guestLines place items =
      (during settings authority o).guestLines place items := by
  induction items generalizing place with
  | nil => rfl
  | cons item items ih =>
    unfold guestLines
    simp only [ih]
    rfl

theorem admitted?_andTiers : (during settings authority o.andTiers).admitted? r moment =
    (during settings authority o).admitted? r moment := rfl

/-- The tiers that can be listed. -/
def listed (o : Outage) (m : Memory) : List PriceTier :=
  if o.hits [.listTiers] then [] else m.tiers.list false

theorem listed_andTiers (o : Outage) (m : Memory) : listed o.andTiers m = [] := rfl

theorem run_activeTiers (o : Outage) (m : Memory) :
    (Memory.store.during o).activeTiers m = .ok (.ok (listed o m), m) := by
  change (tryCatch (o.guard [.listTiers] (Memory.store.listTiers false)) fun _ => pure [] :
    StoreAction Memory _) m = _
  rw [run_tryCatch, Outage.run_guard, listed]
  by_cases hhits : o.hits [.listTiers] = true
  · rw [if_pos hhits, if_pos hhits]
    rfl
  · rw [if_neg hhits, if_neg hhits]
    rfl

/-- A refresh hands the summary of the cart to the hub, when the cart can be read. -/
theorem run_refresh_during (shop : Shop Memory) :
    (during settings authority o).refresh user moment shop =
      if o.hits [.getCart] then .ok (.error (.store o.failure), shop)
      else (summarizeCart settings.fallback (shop.store.carts.get? user) (listed o shop.store)).map
        fun summary =>
          (.ok summary, { shop with hub := shop.hub.observe settings user summary moment }) := by
  have hcart : (Memory.store.during o).cart? user shop.store =
      if o.hits [.getCart] then .ok (.error o.failure, shop.store)
      else .ok (.ok (shop.store.carts.get? user), shop.store) := o.run_guard _ _ _
  by_cases hhits : o.hits [.getCart] = true
  · rw [if_pos hhits] at hcart ⊢
    exact refresh_of_unread hcart
  · rw [if_neg hhits] at hcart ⊢
    rw [refresh, Service.shop, run_adapt, Shop.run_refresh]
    change ((Shop.summarize (Memory.store.during o) settings user shop.store).map _).map _ = _
    rw [Shop.summarize, run_bind, hcart]
    simp only [run_bind, run_activeTiers, run_checked]
    cases summarizeCart settings.fallback (shop.store.carts.get? user) (listed o shop.store) <;> rfl

/-- Both leave one store, and the second summary shows the same lines without any tier. -/
def Untiered (fallback : Float) (priced : Memory → List CartLine → Prop)
    (p q : CartSummary × Shop Memory) : Prop :=
  q.2.store = p.2.store ∧ ∃ lines, priced p.2.store lines ∧ p.1.Untiers fallback lines q.1

/-- Both reply with summaries that are so related. -/
def Replied (Q : CartSummary × Shop Memory → CartSummary × Shop Memory → Prop)
    (p q : Response × Shop Memory) : Prop :=
  ∃ s s', p.1 = reply s ∧ q.1 = reply s' ∧ Q (s, p.2) (s', q.2)

theorem Replied.of_beside {Q : CartSummary × Shop Memory → CartSummary × Shop Memory → Prop}
    {x y : ServiceAction Memory CartSummary} (h : Beside Q (x shop) (y shop)) :
    Beside (Replied Q) ((do return reply (← x) : ServiceAction Memory Response) shop)
      ((do return reply (← y) : ServiceAction Memory Response) shop) :=
  h.worded fun s s' _ _ hrelated => ⟨s, s', rfl, rfl, hrelated⟩

theorem beside_refresh (hfilled : AllFilled (shop.store.carts.linesOf user)) :
    Beside (Untiered settings.fallback fun m lines => lines = m.carts.linesOf user)
      ((during settings authority o).refresh user moment shop)
      ((during settings authority o.andTiers).refresh user moment shop) := by
  have hhits : o.andTiers.hits [.getCart] = o.hits [.getCart] := rfl
  rw [run_refresh_during, run_refresh_during, hhits, listed_andTiers]
  by_cases hunread : o.hits [.getCart] = true
  · rw [if_pos hunread, if_pos hunread]
    exact .refused _ _
  · rw [if_neg hunread, if_neg hunread]
    rcases summarizeCart_untiered (fun line hline => (hfilled line hline).le) settings.fallback
      (listed o shop.store) with ⟨e, h, h'⟩ | ⟨s, s', h, h', huntiers⟩
    · rw [h, h']
      exact .overflowed e
    · rw [h, h']
      exact .answered ⟨rfl, _, rfl, huntiers⟩

/-- The cart is changed alike before tiers are asked for. -/
theorem beside_change (hfilled : shop.store.Filled) :
    Beside (Replied (Untiered settings.fallback fun m lines => lines = m.carts.linesOf user))
      ((during settings authority o).change user moment c shop)
      ((during settings authority o.andTiers).change user moment c shop) := by
  unfold change
  rw [write_andTiers]
  refine Beside.after fun _ shop' hwrite => Replied.of_beside (beside_refresh ?_)
  exact filled_write c shop _ shop' hfilled hwrite user

theorem product_eq_ok {id : UInt32} {p : Product}
    (h : (during settings authority o).product id shop = .ok (.ok p, shop')) :
    shop.store.products.get? id = some p := by
  rcases bind_eq_ok.mp h with ⟨e, -, he⟩ | ⟨found, shop₁, hfound, h⟩
  · cases he
  · rw [run_call] at hfound
    change ((o.guard [.getProduct] (Memory.read (·.products.get? id)) : StoreAction Memory _)
      shop.store).map _ = _ at hfound
    rw [Outage.run_guard, Memory.run_read] at hfound
    split at hfound <;> cases hfound
    cases hget : shop.store.products.get? id with
    | none =>
      rw [hget] at h
      cases h
    | some q =>
      rw [hget] at h
      cases h
      rfl

/-- Lines that are not refused are those of the items, and each holds something. -/
theorem guestLines_eq_ok {place : Nat} {items : List ItemRequest} {lines : List CartLine}
    (h : (during settings authority o).guestLines place items shop = .ok (.ok lines, shop')) :
    shop' = shop ∧ AllFilled lines ∧ shop.store.Stocks items lines := by
  have hsame : shop' = shop := reads_guestLines during_careful place items shop _ shop' h
  refine ⟨hsame, ?_⟩
  induction items generalizing place lines shop' with
  | nil =>
    cases h
    exact ⟨fun _ hline => absurd hline List.not_mem_nil, .nil⟩
  | cons item items ih =>
    unfold guestLines at h
    split at h
    · cases h
    · rename_i hq
      rcases bind_eq_ok.mp h with ⟨e, -, he⟩ | ⟨p, shop₁, hp, h⟩
      · cases he
      · have hproduct := product_eq_ok hp
        rw [reads_product during_careful item.productId shop _ shop₁ hp] at h
        rcases bind_eq_ok.mp h with ⟨e, -, he⟩ | ⟨rest, shop₂, hrest, h⟩
        · cases he
        · cases h
          have hsame₂ := reads_guestLines during_careful (place + 1) items shop _ _ hrest
          obtain ⟨hfilled, hstocks⟩ := ih hrest hsame₂
          exact ⟨List.forall_mem_cons.mpr ⟨Int64.not_nonpos_iff.mp hq, hfilled⟩,
            .cons ⟨p, place, hproduct, rfl⟩ hstocks⟩

theorem run_price_during (lines : List CartLine) (shop : Shop Memory) :
    call (Shop.price (Memory.store.during o) settings lines) shop =
      (priceLines settings.fallback lines (listed o shop.store)).map fun summary =>
        (.ok summary, shop) := by
  rw [run_call, Shop.price, run_bind, run_activeTiers]
  cases hprice : priceLines settings.fallback lines (listed o shop.store) <;>
    simp [hprice, Except.map, Except.mapError]

theorem beside_guestPrice {cart : GuestCart} (hcart : Extract.body GuestCart r = .ok cart) :
    Beside (Untiered settings.fallback fun m lines => m.Priced r user lines .guestPrice)
      ((during settings authority o).guestPrice cart shop)
      ((during settings authority o.andTiers).guestPrice cart shop) := by
  unfold guestPrice
  rw [guestLines_andTiers]
  refine Beside.after fun lines shop' hlines => ?_
  obtain ⟨rfl, hfilled, hstocks⟩ := guestLines_eq_ok hlines
  change Beside _ (call (Shop.price (Memory.store.during o) settings lines) shop')
    (call (Shop.price (Memory.store.during o.andTiers) settings lines) shop')
  rw [run_price_during, run_price_during, listed_andTiers]
  rcases priceLines_untiered (fun line hline => (hfilled line hline).le) settings.fallback
    (listed o shop'.store) with ⟨e, h, h'⟩ | ⟨s, s', h, h', huntiers⟩
  · rw [h, h']
    exact .overflowed e
  · rw [h, h']
    exact .answered ⟨rfl, lines, ⟨cart, hcart, hstocks⟩, huntiers⟩

/-- An endpoint that prices a cart prices the same lines without any tier, and does the rest
alike. -/
theorem beside_run (hfilled : shop.store.Filled)
    (hprices : endpoint.isOfCart = true ∨ endpoint = .guestPrice) :
    Beside (Replied (Untiered settings.fallback fun m lines => m.Priced r user lines endpoint))
      ((during settings authority o).run endpoint user r moment shop)
      ((during settings authority o.andTiers).run endpoint user r moment shop) := by
  have changed : ∀ {asked : Extracted CartChange}, Extract.cartChange? r endpoint = some asked →
      Beside (Replied (Untiered settings.fallback fun m lines => lines = m.carts.linesOf user))
        ((during settings authority o).run endpoint user r moment shop)
        ((during settings authority o.andTiers).run endpoint user r moment shop) := by
    intro asked hasked
    rw [run_cartChange hasked, run_cartChange hasked]
    exact Beside.after_except fun c _ => beside_change hfilled
  cases endpoint with
  | summary => exact Replied.of_beside (beside_refresh (hfilled user))
  | addItem => exact changed rfl
  | updateItem place => exact changed rfl
  | removeItem place => exact changed rfl
  | guestPrice =>
    exact Beside.after_except fun cart hcart => Replied.of_beside (beside_guestPrice hcart)
  | _ => rcases hprices with h | h <;> cases h

/-- Two answers to one request leave one store and have one status. A refusal is the same refusal.
Where a cart is priced, the second answer shows the same lines without any tier. -/
structure AnsweredAlike (fallback : Float) (r : Request) (admitted : Option (Endpoint × String))
    (p q : Response × Shop Memory) : Prop where
  store : q.2.store = p.2.store
  status : q.1.status = p.1.status
  refused : p.1.status ≠ 200 → q.1 = p.1
  priced : ∀ endpoint user, admitted = some (endpoint, user) → endpoint ≠ .notifications →
    p.1.status = 200 → ∃ lines, ∃ s s' : CartSummary, p.2.store.Priced r user lines endpoint ∧
      p.1 = finished r (.ok (reply s)) ∧ q.1 = finished r (.ok (reply s')) ∧
      s.Untiers fallback lines s'

section AnsweredAlike

variable {fallback : Float} {admitted : Option (Endpoint × String)} {p q : Response × Shop Memory}

theorem AnsweredAlike.refl (h : ∀ endpoint user, admitted = some (endpoint, user) →
    endpoint ≠ .notifications → p.1.status ≠ 200) : AnsweredAlike fallback r admitted p p where
  store := rfl
  status := rfl
  refused _ := rfl
  priced endpoint user hadmitted hne hstatus :=
    absurd hstatus (h endpoint user hadmitted hne)

theorem AnsweredAlike.of_replied
    (h : Replied (Untiered fallback fun m lines => m.Priced r user lines endpoint) p q) :
    AnsweredAlike fallback r (some (endpoint, user)) (finished r (.ok p.1), p.2)
      (finished r (.ok q.1), q.2) := by
  obtain ⟨s, s', hp, hq, hstore, lines, hlines, huntiers⟩ := h
  have hstatus : (finished r (.ok p.1)).status = 200 := by
    rw [finished_status, hp]
    rfl
  refine ⟨hstore, ?_, fun hne => absurd hstatus hne, fun _ _ hadmitted _ _ => ?_⟩
  · rw [hstatus, finished_status, hq]
    rfl
  · cases hadmitted
    exact ⟨lines, s, s', hlines, hp ▸ rfl, hq ▸ rfl, huntiers⟩

end AnsweredAlike

/-- While tiers cannot be listed, besides all that fails already, a request about a cart overflows
where it would otherwise, and is answered alike where it would be answered. -/
theorem respond_untiered (harrived : Arrived settings authority shop) (o : Outage)
    (hcart : ∀ endpoint user,
      (during settings authority o).admitted? r moment = some (endpoint, user) →
      endpoint.isOfCart = true ∨ endpoint = .guestPrice ∨ endpoint = .notifications) :
    (∃ e, (during settings authority o).respond r moment shop = .error e ∧
        (during settings authority o.andTiers).respond r moment shop = .error e) ∨
      ∃ p q, (during settings authority o).respond r moment shop = .ok p ∧
        (during settings authority o.andTiers).respond r moment shop = .ok q ∧
        AnsweredAlike settings.fallback r ((during settings authority o).admitted? r moment)
          p q := by
  cases hadmitted : (during settings authority o).admitted? r moment with
  | none =>
    obtain ⟨response, -, hanswer⟩ := respond_dismisses_alike hadmitted
    have hworks := hanswer (during settings authority o) rfl shop
    have hfails := hanswer (during settings authority o.andTiers) rfl shop
    exact Or.inr ⟨_, _, hworks, hfails, .refl fun _ _ h => by cases h⟩
  | some admitted =>
    obtain ⟨endpoint, user⟩ := admitted
    have hadmitted' : (during settings authority o.andTiers).admitted? r moment =
        some (endpoint, user) := admitted?_andTiers.trans hadmitted
    rw [respond_admitted hadmitted, respond_admitted hadmitted']
    rcases or_assoc.mpr (hcart endpoint user hadmitted) with hprices | rfl
    · have hbeside : Beside (Replied (Untiered settings.fallback fun m lines =>
            m.Priced r user lines endpoint))
          ((during settings authority o).run endpoint user r moment shop)
          ((during settings authority o.andTiers).run endpoint user r moment shop) :=
        beside_run harrived.filled hprices
      generalize (during settings authority o).run endpoint user r moment shop = x at hbeside
      generalize (during settings authority o.andTiers).run endpoint user r moment shop = y
        at hbeside
      cases hbeside with
      | overflowed e => exact Or.inl ⟨e, rfl, rfl⟩
      | refused e shop' =>
        refine Or.inr ⟨_, _, rfl, rfl, .refl fun _ _ _ _ => ?_⟩
        rw [finished_status]
        exact e.status_ne_200
      | answered h => exact Or.inr ⟨_, _, rfl, rfl, .of_replied h⟩
    · refine Or.inr ⟨_, _, rfl, rfl, .refl fun _ _ hadmitted hne => ?_⟩
      cases hadmitted
      exact absurd rfl hne

end Service

/-- The first order in a new shop is answered at the price that is stored with the shirt. -/
theorem Service.respond_untiered_order :
    ∃ (q : Response × Shop Memory) (lines : List CartLine) (s s' : CartSummary),
      (during {} .byName Outage.none.andTiers).respond (Seed.order "2") ⟨0, 0⟩
        ⟨Seed.opened, .new {}⟩ = .ok q ∧
      q.1 = finished (Seed.order "2") (.ok (reply s')) ∧ q.2.store.carts.linesOf "ana" = lines ∧
      lines.map (fun l => (l.productId, l.quantity)) = [(1, 2)] ∧ s.Untiers 2.0 lines s' := by
  obtain ⟨p, hp, hstatus, hlines⟩ : ∃ p, (during {} .byName .none).respond (Seed.order "2") ⟨0, 0⟩
      ⟨Seed.opened, .new {}⟩ = .ok p ∧ p.1.status = 200 ∧
      (p.2.store.carts.linesOf "ana").map (fun l => (l.productId, l.quantity)) = [(1, 2)] :=
    ⟨_, (respond_cartChange (Seed.cartChange?_order Seed.body_order_two) _).trans rfl, rfl, rfl⟩
  have hadmitted : (during {} .byName .none).admitted? (Seed.order "2") ⟨0, 0⟩ =
      some (.addItem, "ana") := Seed.admitted?_order _ _ _ _
  have harrived : Arrived {} .byName ⟨Seed.opened, .new {}⟩ := .opened Seed.holding_opened
  have hcart : ∀ endpoint user, (during {} .byName .none).admitted? (Seed.order "2") ⟨0, 0⟩ =
      some (endpoint, user) →
      endpoint.isOfCart = true ∨ endpoint = .guestPrice ∨ endpoint = .notifications := by
    intro endpoint user h
    rw [hadmitted] at h
    cases h
    exact Or.inl rfl
  rcases respond_untiered harrived .none hcart with ⟨e, he, -⟩ | ⟨p', q, hp', hq, halike⟩
  · rw [hp] at he
    cases he
  · rw [hp] at hp'
    cases hp'
    obtain ⟨lines, s, s', hpriced, -, hreply, huntiers⟩ :=
      halike.priced _ _ hadmitted (by simp) hstatus
    refine ⟨q, lines, s, s', hq, hreply, ?_, ?_, huntiers⟩
    · rw [halike.store]
      exact hpriced.symm
    · rw [hpriced]
      exact hlines

end VolumePricing
