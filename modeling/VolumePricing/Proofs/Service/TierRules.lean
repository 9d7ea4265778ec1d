import VolumePricing.Proofs.Service.Handling
import VolumePricing.Proofs.Service.InMemory
import VolumePricing.Proofs.Tier.Validity

/-!
# What holds of every tier

Every tier that requests can lead to has a known formula and names that are not
empty. It validates as well, unless an update gave it a name of blanks.
-/

namespace VolumePricing

open VolumePricing.Action
open Http (Request Response)

namespace Memory

variable {P : PriceTier → Prop} (hP : PriceTier.Steady P)

include hP in
theorem keeps_createTier {t : PriceTier} (h : ∀ id i, P { t with id, orderIndex := i }) :
    Keeps (fun m => m.tiers.All P) (store.createTier t) := keeps_change fun m a m' hm hc => by
  rcases hcreate : m.tiers.create t with o | ⟨created, tiers⟩ <;> rw [hcreate] at hc <;> cases hc
  exact hm.create hP h hcreate

include hP in
theorem keeps_updateTier {id : UInt32} {u : TierUpdate}
    (h : ∀ t, t.id = id → P t → P (u.applyTo t)) :
    Keeps (fun m => m.tiers.All P) (store.updateTier id u) := keeps_change fun m a m' hm hc => by
  rcases hupdate : m.tiers.update id u with e | ⟨updated, tiers⟩ <;> rw [hupdate] at hc <;> cases hc
  exact hm.update hP h hupdate

theorem keeps_deleteTier (id : UInt32) :
    Keeps (fun m => m.tiers.All P) (store.deleteTier id) := keeps_change fun m a m' hm hc => by
  rcases hdelete : m.tiers.delete id with e | tiers <;> rw [hdelete] at hc <;> cases hc
  exact hm.delete hdelete

include hP in
theorem keeps_reorderTiers (order : List TierOrder) :
    Keeps (fun m => m.tiers.All P) (store.reorderTiers order) := keeps_change fun m a m' hm hc => by
  cases hc
  exact hm.reorder hP order

end Memory

namespace Service

variable {settings : HubSettings} {authority : Authority} {r : Request} {moment : Moment}
  {shop shop' : Shop Memory} {user : String}

/-- Of every tier holds what holds of every tier that may be created, and what every update leaves
that the request may be for. -/
theorem tiers_respond {P : PriceTier → Prop} (hP : PriceTier.Steady P)
    (created : ∀ (t : PriceTier) id i, t.validate = .ok () → P { t with id, orderIndex := i })
    (updated : ∀ u t, (inMemory settings authority).tierUpdate? r moment = some (t.id, u) →
      P t → P (u.applyTo t))
    (hshop : shop.store.tiers.All P) {response : Response}
    (h : (inMemory settings authority).respond r moment shop = .ok (response, shop')) :
    shop'.store.tiers.All P := by
  have hcareful : (inMemory settings authority).store.Careful := Memory.store_careful
  refine keeps_respond (P := fun shop => shop.store.tiers.All P) (fun endpoint user hadmitted => ?_)
    hshop h
  refine run_of_calls hcareful (robust_keeps _)
    (fun c _ => keeps_change_tables (o := .none) (fun tiers _ => tiers.All P) c) (fun _ => ?_)
    (fun _ => keeps_refresh hcareful (fun m => m.tiers.All P) user moment)
  have kept : ∀ {α : Type} {action : StoreAction Memory α}, Keeps (fun m => m.tiers.All P) action →
      Keeps (fun shop : Shop Memory => shop.store.tiers.All P) (call action) := fun hkept =>
    keeps_call (P := fun _ (m : Memory) => m.tiers.All P) fun _ => hkept
  exact {
    createTier := fun t hvalid => kept (Memory.keeps_createTier hP fun id i => created t id i hvalid)
    updateTier := fun id u hasked _ => kept (Memory.keeps_updateTier hP fun t hid =>
      updated u t (hid ▸ tierUpdate?_eq_some.mpr ⟨endpoint, user, hadmitted, hasked⟩))
    deleteTier := fun id => kept (Memory.keeps_deleteTier id)
    reorderTiers := fun order => kept (Memory.keeps_reorderTiers hP order)
    renew := fun _ tiers products =>
      kept (keeps_reprice (Memory.keeps_updatePrices fun tiers _ => tiers.All P) tiers products) }

/-- An update that validates is made in memory when there is a tier of that id. -/
theorem respond_update_made {id : UInt32} {u : TierUpdate} {t : PriceTier}
    (hasked : (inMemory settings authority).tierUpdate? r moment = some (id, u))
    (hvalid : u.validate = .ok ()) (ht : shop.store.tiers.get? id = some t) :
    ∃ shop', (inMemory settings authority).respond r moment shop =
        .ok (finished r (.ok (reply (u.applyTo t))), shop') ∧
      shop'.store.tiers.get? id = some (u.applyTo t) := by
  obtain ⟨tiers, hstore, hget⟩ := Memory.updateTier_of_get? ht u
  have hupdate : (inMemory settings authority).updateTier id u shop = _ :=
    updateTier_eq_ok.mpr ⟨hvalid, _, hstore, rfl⟩
  refine ⟨{ shop with store := { shop.store with tiers } }, ?_, hget⟩
  rw [respond_tierUpdate hasked, hupdate]
  rfl

/-- So it does when the request overflows. -/
theorem tiers_handle {P : PriceTier → Prop} (hP : PriceTier.Steady P)
    (created : ∀ (t : PriceTier) id i, t.validate = .ok () → P { t with id, orderIndex := i })
    (updated : ∀ u t, (inMemory settings authority).tierUpdate? r moment = some (t.id, u) →
      P t → P (u.applyTo t))
    (hshop : shop.store.tiers.All P) :
    ((inMemory settings authority).handle r moment shop).2.store.tiers.All P := by
  apply handle_leads (P := fun shop => shop.store.tiers.All P)
  · intro response shop' h
    exact tiers_respond hP created updated hshop h
  · intro e shop' _ h t ht
    rw [Left.tiers_eq (o := .none) h] at ht
    exact hshop t ht

/-- In every run over tiers that validate, whatever overflows in it, every tier keeps a known
formula and names that are not empty, and a tier validates unless some update of its id gave it a
blank name. Such an update is made like every other, and the tier does not validate after it. -/
theorem handleAll_validates {tiers : List PriceTier} {products : List Product} {m₀ : Memory}
    {requests : List (Request × Moment)} {results : List (Checked Response)}
    (hopen : Memory.holding tiers products = .ok m₀)
    (hvalid : ∀ t ∈ tiers, t.validate = .ok ())
    (hrun : (inMemory settings authority).handleAll requests ⟨m₀, .new settings⟩ =
      (results, shop)) :
    (∀ t ∈ shop.store.tiers.tiers, t.Named ∧
      ((∀ q ∈ requests, ∀ u, (inMemory settings authority).tierUpdate? q.1 q.2 = some (t.id, u) →
        ¬ u.BlanksName) → t.validate = .ok ())) ∧
    ∀ r moment id u t, (inMemory settings authority).tierUpdate? r moment = some (id, u) →
      u.validate = .ok () → shop.store.tiers.get? id = some t → t.validate = .ok () →
      ∃ response shop', (inMemory settings authority).respond r moment shop =
          .ok (response, shop') ∧ response.status = 200 ∧
        shop'.store.tiers.get? id = some (u.applyTo t) ∧
        ((u.applyTo t).validate = .ok () ↔ ¬ u.BlanksName) := by
  constructor
  · -- An update with a blank name of some id takes all tiers of that id out of the second part.
    let P : PriceTier → Prop := fun t => t.Named ∧
      ((∀ q ∈ requests, ∀ u, (inMemory settings authority).tierUpdate? q.1 q.2 = some (t.id, u) →
        ¬ u.BlanksName) → t.validate = .ok ())
    have hP : PriceTier.Steady P :=
      ⟨fun h => ⟨⟨h.1.1, h.1.2, h.1.3⟩, h.2⟩, fun _ h => ⟨⟨h.1.1, h.1.2, h.1.3⟩, h.2⟩⟩
    have hstart : m₀.tiers.All P := by
      intro t ht
      rw [(Memory.holding_eq_ok hopen).1] at ht
      exact ⟨PriceTier.named_of_validate (hvalid t ht), fun _ => hvalid t ht⟩
    have hall : ((inMemory settings authority).handleAll requests
        ⟨m₀, .new settings⟩).2.store.tiers.All P := by
      apply handleAll_keeps (P := fun shop : Shop Memory => shop.store.tiers.All P)
      · intro q hq shop hshop
        apply tiers_handle hP _ _ hshop
        · intro t id i ht
          have hnamed := PriceTier.named_of_validate ht
          exact ⟨⟨hnamed.1, hnamed.2, hnamed.3⟩, fun _ => ht⟩
        · rintro u t hasked ⟨hnamed, ht⟩
          refine ⟨TierUpdate.named_applyTo hnamed, fun hclean => ?_⟩
          exact (TierUpdate.validate_applyTo (ht hclean)).mpr (hclean q hq u hasked)
      · exact hstart
    rw [hrun] at hall
    exact hall
  · intro r moment id u t hasked hu hget ht
    obtain ⟨shop', hrespond, hget'⟩ := respond_update_made hasked hu hget
    exact ⟨_, shop', hrespond, finished_status r _, hget', TierUpdate.validate_applyTo ht⟩

end Service

/-- A name of one blank takes the place of the name of the first tier. -/
theorem Service.handleAll_validates_blanking :
    ∃ results shop, (inMemory {} .byRole).handleAll [(Seed.blanking, ⟨0, 0⟩)]
        ⟨Seed.opened, .new {}⟩ = (results, shop) ∧
      (∀ t ∈ shop.store.tiers.tiers, t.Named ∧ (t.id ≠ 1 → t.validate = .ok ())) ∧
      ∃ t ∈ shop.store.tiers.tiers, t.validate ≠ .ok () := by
  have hseed : ∀ t ∈ Seed.tiers, t.validate = .ok () := by decide +kernel
  have hasked : (inMemory {} .byRole).tierUpdate? Seed.blanking ⟨0, 0⟩ = _ :=
    Seed.tierUpdate?_blanking
  have hnone : (inMemory {} .byRole).handleAll [] ⟨Seed.opened, .new {}⟩ =
      ([], ⟨Seed.opened, .new {}⟩) := rfl
  obtain ⟨-, hupdate⟩ := handleAll_validates Seed.holding_opened hseed hnone
  obtain ⟨response, shop, hrespond, -, hget, hvalid⟩ :=
    hupdate Seed.blanking ⟨0, 0⟩ 1 _ _ hasked rfl rfl (by decide +kernel)
  have hrun : (inMemory {} .byRole).handleAll [(Seed.blanking, ⟨0, 0⟩)] ⟨Seed.opened, .new {}⟩ =
      ([.ok response], shop) := by
    rw [handleAll_cons, handle_of_ok hrespond]
    rfl
  refine ⟨_, _, hrun, fun t ht => ?_, _, List.mem_of_find?_eq_some hget, fun hok => ?_⟩
  · obtain ⟨hnamed, hrules⟩ := (handleAll_validates Seed.holding_opened hseed hrun).1 t ht
    refine ⟨hnamed, fun hne => hrules fun q hq u hu => absurd ?_ hne⟩
    rw [List.mem_singleton] at hq
    rw [hq, hasked, Option.some.injEq, Prod.mk.injEq] at hu
    exact hu.1.symm
  · exact hvalid.mp hok ⟨" ", Or.inl rfl, by decide, by decide⟩

end VolumePricing
