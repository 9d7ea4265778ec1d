import VolumePricing.Proofs.Database.TierAgreement
import VolumePricing.Proofs.Service.TierRules

/-!
# An update over a tier

What an update gives lies over the stored tier. A field that is absent keeps its
stored value and so does a blank one, and every other field takes the value
given. Texts are blank when they are empty, and an order index is meant to be
when it is zero; but one below zero passes for blank too, although a tier may be
created with it and a new order may give it. With what comes of this an update
is answered, and it is stored, in memory as in a database.
-/

namespace VolumePricing

open VolumePricing.Action
open Http (Request Response)

/-- A field over a stored one: it keeps the stored value when it is absent or blank, and else
replaces it. -/
structure KeepsOrReplaces {α : Type} (blank : α → Prop) (given : Option α) (stored new : α) :
    Prop where
  keeps : (∀ a ∈ given, blank a) → new = stored
  replaces : ∀ a ∈ given, ¬ blank a → new = a

namespace KeepsOrReplaces

variable {α : Type} {blank : α → Prop} {given : Option α}

/-- Where nothing is blank, everything given is taken. -/
theorem getD (given : Option α) (stored : α) :
    KeepsOrReplaces (fun _ => False) given stored (given.getD stored) where
  keeps h := by rw [Option.eq_none_iff_forall_not_mem.mpr h, Option.getD_none]
  replaces a ha _ := by rw [ha, Option.getD_some]

/-- What passes a filter is taken when the filter stops all that is blank and nothing else. -/
theorem filter {p : α → Bool} (h : ∀ a ∈ given, blank a ↔ ¬ p a = true) (stored : α) :
    KeepsOrReplaces blank given stored ((given.filter p).getD stored) where
  keeps hblank := by
    rw [Option.filter_eq_none_iff.mpr fun a ha => (h a ha).mp (hblank a ha), Option.getD_none]
  replaces a ha hblank := by
    have hpass : p a = true := not_not.mp (mt (h a ha).mpr hblank)
    rw [ha, Option.filter_some_pos hpass, Option.getD_some]

theorem textOr (given : Option String) (stored : String) :
    KeepsOrReplaces (· = "") given stored (TierUpdate.textOr given stored) :=
  filter (fun _ _ => by simp) stored

end KeepsOrReplaces

namespace TierUpdate

variable {u : TierUpdate} {t new : PriceTier}

/-- The new tier is the stored one with the update over it. Numbers and switches are never blank;
which order indices are is left open. -/
structure Overlays (blank : Int32 → Prop) (u : TierUpdate) (t new : PriceTier) : Prop where
  id : new.id = t.id
  name : KeepsOrReplaces (· = "") u.name t.name new.name
  displayName : KeepsOrReplaces (· = "") u.displayName t.displayName new.displayName
  formula : KeepsOrReplaces (· = .other "") u.formula t.formula new.formula
  multiplier : KeepsOrReplaces (fun _ => False) u.multiplier t.multiplier new.multiplier
  percentage : KeepsOrReplaces (fun _ => False) u.percentage t.percentage new.percentage
  flatAmount : KeepsOrReplaces (fun _ => False) u.flatAmount t.flatAmount new.flatAmount
  minQuantity : KeepsOrReplaces (fun _ => False) u.minQuantity t.minQuantity new.minQuantity
  orderIndex : KeepsOrReplaces blank u.orderIndex t.orderIndex new.orderIndex
  active : KeepsOrReplaces (fun _ => False) u.active t.active new.active
  description : KeepsOrReplaces (· = "") u.description t.description new.description
  isDefault : KeepsOrReplaces (fun _ => False) u.isDefault t.isDefault new.isDefault
  showInPublic : KeepsOrReplaces (fun _ => False) u.showInPublic t.showInPublic new.showInPublic
  colorCode : KeepsOrReplaces (· = "") u.colorCode t.colorCode new.colorCode

/-- In an update that validates only the empty formula is unknown. -/
theorem eq_empty_iff_of_validate (h : u.validate = .ok ()) {f : Formula} (hf : f ∈ u.formula) :
    f = .other "" ↔ ¬ f.isKnown = true := by
  unfold validate at h
  rw [hf] at h
  cases f with
  | other tag =>
    by_cases htag : tag = ""
    · simp [htag, Formula.isKnown]
    · simp [htag] at h
  | _ => simp [Formula.isKnown]

/-- An update that validates is laid over the tier, with no index that is not positive. -/
theorem overlays_applyTo (h : u.validate = .ok ()) (t : PriceTier) :
    u.Overlays (· ≤ 0) t (u.applyTo t) where
  id := rfl
  name := .textOr _ _
  displayName := .textOr _ _
  formula := .filter (fun _ hf => eq_empty_iff_of_validate h hf) _
  multiplier := .getD _ _
  percentage := .getD _ _
  flatAmount := .getD _ _
  minQuantity := .getD _ _
  orderIndex := .filter (fun i _ => by simp [Int32.not_lt]) _
  active := .getD _ _
  description := .textOr _ _
  isDefault := .getD _ _
  showInPublic := .getD _ _
  colorCode := .textOr _ _

/-- What is laid over the tier is what should be, unless the index given is below zero and not the one
that the tier has already. -/
theorem Overlays.zero_iff (h : u.Overlays (· ≤ 0) t new) :
    u.Overlays (· = 0) t new ↔ ∀ i ∈ u.orderIndex, i < 0 → t.orderIndex = i := by
  have hkept : ∀ i ∈ u.orderIndex, i < 0 → new.orderIndex = t.orderIndex := fun i hi hneg =>
    h.orderIndex.keeps fun a ha => Option.mem_unique hi ha ▸ Int32.le_of_lt hneg
  constructor
  · intro hzero i hi hneg
    exact (hkept i hi hneg).symm.trans (hzero.orderIndex.replaces i hi (Int32.ne_of_lt hneg))
  · intro hstored
    refine { h with orderIndex := ⟨fun hblank => ?_, fun i hi hblank => ?_⟩ }
    · exact h.orderIndex.keeps fun a ha => hblank a ha ▸ Int32.le_refl 0
    · by_cases hneg : i < 0
      · exact (hkept i hi hneg).trans (hstored i hi hneg)
      · refine h.orderIndex.replaces i hi fun hle => hblank ?_
        exact Int32.le_antisymm hle (Int32.not_lt.mp hneg)

/-- The update over the tier as it is made: with a negative index for a blank one, and as it is meant
otherwise. -/
structure Overlaid (u : TierUpdate) (t new : PriceTier) : Prop where
  made : u.Overlays (· ≤ 0) t new
  meant : u.Overlays (· = 0) t new ↔ ∀ i ∈ u.orderIndex, i < 0 → t.orderIndex = i

theorem overlaid_applyTo (h : u.validate = .ok ()) (t : PriceTier) : u.Overlaid t (u.applyTo t) :=
  ⟨overlays_applyTo h t, (overlays_applyTo h t).zero_iff⟩

/-- A tier of a new shop keeps its index when an update gives it one below zero. -/
theorem not_overlays_negative :
    let u : TierUpdate := { orderIndex := some (-1) }
    u.validate = .ok () ∧ ∀ t ∈ Seed.tiers, ¬ u.Overlays (· = 0) t (u.applyTo t) := by
  intro u
  refine ⟨rfl, fun t ht hmeant => ?_⟩
  have hstored : t.orderIndex = -1 :=
    (overlays_applyTo (u := u) rfl t).zero_iff.mp hmeant (-1) rfl (by decide)
  have hseed : ∀ t ∈ Seed.tiers, t.orderIndex ≠ -1 := by decide +kernel
  exact hseed t ht hstored

end TierUpdate

/-! ### In a database -/

namespace Database

/-- In one transaction the database has shown a row of the stored tier and been told to replace it by
the new one, whose row is read as the new tier. -/
structure Replaced (said : List Exchange) (id : UInt32) (t new : PriceTier) : Prop where
  shown : Heard said (.prepared lockTier [.ofId id]) tierOfRow? t
  told : ∃ e ∈ said, e.statement = .prepared replaceTier (tierValues new ++ [.ofId id])
  row : tierOfRow? (written replaceTier (tierValues new ++ [.ofId id])) = some { new with id }
  committed : ∃ r : Reply, r.isDone = true ∧ .held "COMMIT" r ∈ said

theorem replaced_of_update {c c' : Conversation} {id : UInt32} {u : TierUpdate} {new : PriceTier}
    (h : store.updateTier id u c = .ok (.ok new, c')) :
    ∃ t, new = u.applyTo t ∧ Replaced ((updateTier id u).exchanges c) id t new := by
  have hcourse := course_transaction (revision id u) c
  have hanswer : ((transaction (revision id u)).run c).map (·.1) = .ok (.ok new) :=
    congrArg (Except.map (·.1)) h
  rw [hanswer] at hcourse
  have hcommitted := (hcourse.transacts (orderly_revision id u)).answered new rfl
  obtain ⟨c₁, c₂, hrun, hsub⟩ := hcourse.body_of_answer
  obtain ⟨t, hshown, rfl, e, he, hs⟩ := revision_eq_ok hrun
  refine ⟨t, rfl, hshown.mono hsub, ⟨e, hsub he, hs⟩, ?_, hcommitted⟩
  obtain ⟨e', -, -, r, rest, n, -, hr⟩ := hshown
  rw [tierOfRow?_replaceTier, TierUpdate.canonical_applyTo (canonical_of_tierOfRow? hr) u]

end Database

/-! ### In requests -/

namespace Service

variable {σ : Type} {s : Service σ} {shop shop' : Shop σ} {r : Request} {moment : Moment}
  {id : UInt32} {u : TierUpdate} {response : Response}

/-- The request is one for this update, and it is accepted. -/
structure AcceptsUpdate (s : Service σ) (r : Request) (moment : Moment) (id : UInt32)
    (u : TierUpdate) (shop : Shop σ) (response : Response) (shop' : Shop σ) : Prop where
  asked : s.tierUpdate? r moment = some (id, u)
  responds : s.respond r moment shop = .ok (response, shop')
  accepted : response.status = 200

/-- A request is accepted as an update when the update validates and the store makes it, and it is
answered with the answer of the store. -/
theorem acceptsUpdate_iff : s.AcceptsUpdate r moment id u shop response shop' ↔
    s.tierUpdate? r moment = some (id, u) ∧ u.validate = .ok () ∧
      ∃ new store, s.store.updateTier id u shop.store = .ok (.ok new, store) ∧
        response = finished r (.ok (reply new)) ∧ shop' = { shop with store } := by
  constructor
  · rintro ⟨hasked, hresponds, haccepted⟩
    rw [respond_tierUpdate hasked] at hresponds
    rcases hupdate : s.updateTier id u shop with o | ⟨refusal | new, shop₁⟩ <;>
      rw [hupdate] at hresponds <;> cases hresponds
    · rw [finished_status] at haccepted
      exact absurd haccepted refusal.status_ne_200
    · obtain ⟨hvalid, store, hstore, hshop⟩ := updateTier_eq_ok.mp hupdate
      exact ⟨hasked, hvalid, new, store, hstore, rfl, hshop⟩
  · rintro ⟨hasked, hvalid, new, store, hstore, rfl, rfl⟩
    have hupdate := updateTier_eq_ok.mpr ⟨hvalid, store, hstore, rfl⟩
    exact ⟨hasked, by rw [respond_tierUpdate hasked, hupdate]; rfl, finished_status r _⟩

end Service

/-- An update that validates is laid over a tier as it is meant to be, but for an index below zero.
With the new tier an accepted request is answered, and it is stored. -/
theorem updates_overlay (settings : HubSettings) (authority : Authority) :
    (∀ (u : TierUpdate) (t : PriceTier), u.validate = .ok () → u.Overlaid t (u.applyTo t)) ∧
    (∀ r moment id u shop response shop',
      (Service.inMemory settings authority).AcceptsUpdate r moment id u shop response shop' →
      ∃ t new, shop.store.tiers.get? id = some t ∧ shop'.store.tiers.get? id = some new ∧
        response = Service.finished r (.ok (Service.reply new)) ∧ u.Overlaid t new) ∧
    ∀ r moment id u shop response shop',
      (Service.mk Database.store settings authority).AcceptsUpdate r moment id u shop response shop' →
      ∃ t new, Database.Replaced ((Database.updateTier id u).exchanges shop.store) id t new ∧
        response = Service.finished r (.ok (Service.reply new)) ∧ u.Overlaid t new := by
  refine ⟨fun u t h => TierUpdate.overlaid_applyTo h t, ?_, ?_⟩
  · intro r moment id u shop response shop' h
    obtain ⟨-, hvalid, new, store, hstore, hresponse, rfl⟩ := Service.acceptsUpdate_iff.mp h
    obtain ⟨t, ht, rfl, hnew⟩ := Memory.updateTier_eq_ok hstore
    exact ⟨t, _, ht, hnew, hresponse, TierUpdate.overlaid_applyTo hvalid t⟩
  · intro r moment id u shop response shop' h
    obtain ⟨-, hvalid, new, store, hstore, hresponse, -⟩ := Service.acceptsUpdate_iff.mp h
    obtain ⟨t, rfl, hreplaced⟩ := Database.replaced_of_update hstore
    exact ⟨t, _, hreplaced, hresponse, TierUpdate.overlaid_applyTo hvalid t⟩

theorem Seed.body_updating : Extract.body TierUpdate
    (updating "\x7b\"name\":\"\",\"display_name\":\"Retail\",\"order_index\":-1\x7d") =
      .ok { name := some "", displayName := some "Retail", orderIndex := some (-1) } := by cbv

/-- The first tier of a new shop, in memory and in a database, is given no name, another name to
display and an index below zero. -/
theorem updates_overlay_seed :
    let u : TierUpdate :=
      { name := some "", displayName := some "Retail", orderIndex := some (-1) }
    let r := Seed.updating "\x7b\"name\":\"\",\"display_name\":\"Retail\",\"order_index\":-1\x7d"
    let c : Database.Conversation := { replies := [.done [Database.rowOf Seed.tiers[0]] 1] }
    (∃ response shop new, (Service.inMemory {} .byRole).AcceptsUpdate r ⟨0, 0⟩ 1 u
        ⟨Seed.opened, .new {}⟩ response shop ∧ shop.store.tiers.get? 1 = some new ∧
      new.name = "wholesale" ∧ new.displayName = "Retail" ∧ new.orderIndex = 3) ∧
    ∃ response shop t new, (Service.mk Database.store {} .byRole).AcceptsUpdate r ⟨0, 0⟩ 1 u
        ⟨c, .new {}⟩ response shop ∧
      Database.Replaced ((Database.updateTier 1 u).exchanges c) 1 t new ∧
      new.name = t.name ∧ new.displayName = "Retail" ∧ new.orderIndex = t.orderIndex := by
  intro u r c
  obtain ⟨-, hmemory, hdatabase⟩ := updates_overlay {} .byRole
  have hvalid : u.validate = .ok () := rfl
  have hname : ∀ a ∈ u.name, a = "" := fun _ ha => (Option.some.inj ha).symm
  have hindex : ∀ i ∈ u.orderIndex, i ≤ 0 := fun _ hi => Option.some.inj hi ▸ by decide
  have hdisplay : ("Retail" : String) ≠ "" := by decide
  have hstored : Seed.opened.tiers.get? 1 = some Seed.tiers[0] := rfl
  constructor
  · obtain ⟨tiers, hstore, -⟩ := Memory.updateTier_of_get? hstored u
    have haccepted : (Service.inMemory {} .byRole).AcceptsUpdate r ⟨0, 0⟩ 1 u
        ⟨Seed.opened, .new {}⟩ _ _ := Service.acceptsUpdate_iff.mpr
      ⟨Seed.tierUpdate?_updating Memory.store Seed.body_updating, hvalid, _, _, hstore, rfl, rfl⟩
    obtain ⟨t, new, ht, hnew, -, hmade, -⟩ := hmemory r ⟨0, 0⟩ 1 u ⟨Seed.opened, .new {}⟩ _ _ haccepted
    obtain rfl := Option.some.inj (hstored.symm.trans ht)
    exact ⟨_, _, new, haccepted, hnew, hmade.name.keeps hname,
      hmade.displayName.replaces _ rfl hdisplay, hmade.orderIndex.keeps hindex⟩
  · have hwilling : c.Willing := ⟨fun _ => rfl, by simp [c, Database.Reply.isDone]⟩
    have hrow : c.nextReply.Shows Database.tierOfRow? Seed.tiers[0] :=
      ⟨_, _, _, rfl, Database.tierOfRow?_rowOf rfl⟩
    obtain ⟨m', c', halike⟩ := Database.updatedAlike hstored hwilling hrow u
    have haccepted : (Service.mk Database.store {} .byRole).AcceptsUpdate r ⟨0, 0⟩ 1 u
        ⟨c, .new {}⟩ _ _ := Service.acceptsUpdate_iff.mpr
      ⟨Seed.tierUpdate?_updating Database.store Seed.body_updating, hvalid, _, _, halike.database,
        rfl, rfl⟩
    obtain ⟨t, new, hreplaced, -, hmade, -⟩ := hdatabase r ⟨0, 0⟩ 1 u ⟨c, .new {}⟩ _ _ haccepted
    exact ⟨_, _, t, new, haccepted, hreplaced, hmade.name.keeps hname,
      hmade.displayName.replaces _ rfl hdisplay, hmade.orderIndex.keeps hindex⟩

end VolumePricing
