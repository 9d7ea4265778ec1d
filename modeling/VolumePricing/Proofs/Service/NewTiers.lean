import VolumePricing.Proofs.Service.TierRules
import VolumePricing.Proofs.Tier.NewTiers

/-!
# Requests for new tiers

Staff may create a tier that validates, with an order index of their own choice
or without one. Nothing keeps them from choosing the highest index there is, and
from then on every request for a tier without an index overflows.
-/

namespace VolumePricing

open VolumePricing.Action Checked
open Http (Request Response)

namespace Service

variable {settings : HubSettings} {authority : Authority} {r : Request} {moment : Moment}
  {user : String} {t : PriceTier} {shop shop' : Shop Memory}

/-- A request for a new tier is answered with the tier that is created. -/
theorem respond_newTier
    (hadmitted : (inMemory settings authority).admitted? r moment = some (.createTier, user))
    (hbody : Extract.body PriceTier r = .ok t) (hvalid : t.validate = .ok ()) (shop : Shop Memory) :
    (inMemory settings authority).respond r moment shop =
      (shop.store.tiers.create t).map fun p => (finished r (.ok (reply p.1 201)),
        { shop with store := { shop.store with tiers := p.2 } }) := by
  have hcreate : (inMemory settings authority).createTier t shop =
      (shop.store.tiers.create t).map fun p =>
        (.ok p.1, { shop with store := { shop.store with tiers := p.2 } }) := by
    rw [createTier, hvalid]
    change call (Memory.store.createTier t) shop = _
    rw [run_call, Memory.run_createTier]
    rcases shop.store.tiers.create t with o | p <;> rfl
  have hrun : (inMemory settings authority).run .createTier user r moment =
      (do return reply (← (inMemory settings authority).createTier t) 201) := by
    simp [run, hbody]
  rw [respond_admitted hadmitted, hrun, run_bind, hcreate]
  rcases shop.store.tiers.create t with o | p <;> rfl

/-- A request for a tier without an order index overflows in the same states as the call does, and
is otherwise answered with a tier that comes last. -/
theorem respond_newTier_last
    (hadmitted : (inMemory settings authority).admitted? r moment = some (.createTier, user))
    (hbody : Extract.body PriceTier r = .ok t) (hvalid : t.validate = .ok ())
    (hzero : t.orderIndex = 0) (shop : Shop Memory) :
    (Overflows ((inMemory settings authority).respond r moment shop) ↔
      (∃ u ∈ shop.store.tiers.tiers, u.orderIndex = Int32.maxValue) ∨
        shop.store.tiers.nextId.toNat + 1 = UInt32.size) ∧
    ∀ response shop', (inMemory settings authority).respond r moment shop = .ok (response, shop') →
      ∃ created, response = finished r (.ok (reply created 201)) ∧
        shop.store.tiers.RanksLast shop'.store.tiers t created := by
  rw [respond_newTier hadmitted hbody hvalid, overflows_map]
  refine ⟨TierTable.overflows_create hzero, ?_⟩
  intro response shop' h
  rcases hcreate : shop.store.tiers.create t with o | ⟨created, tiers⟩ <;>
    rw [hcreate] at h <;> cases h
  exact ⟨created, rfl, TierTable.ranksLast_of_create hzero hcreate⟩

end Service

theorem Seed.body_moving_last : Extract.body TierUpdate (moving "2147483647") =
    .ok { orderIndex := some Int32.maxValue } := by cbv

/-- Staff give a tier the highest index of all, and from then on no tier without an index can be
created. -/
theorem Service.respondAll_newTier_overflows :
    let vip : PriceTier := { name := "vip", displayName := "VIP" }
    vip.validate = .ok () ∧ vip.orderIndex = 0 ∧
    ∃ response shop, (inMemory {} .byRole).respondAll [(Seed.moving "2147483647", ⟨0, 0⟩)]
        ⟨Seed.opened, .new {}⟩ = .ok ([response], shop) ∧ response.status = 200 ∧
      Overflows (Memory.store.createTier vip shop.store) ∧
      ∀ r moment user, (inMemory {} .byRole).admitted? r moment = some (.createTier, user) →
        Extract.body PriceTier r = .ok vip →
          Overflows ((inMemory {} .byRole).respond r moment shop) := by
  intro vip
  have hvalid : vip.validate = .ok () := by decide +kernel
  have hasked : (inMemory {} .byRole).tierUpdate? (Seed.moving "2147483647") ⟨0, 0⟩ = _ :=
    Seed.tierUpdate?_updating Memory.store Seed.body_moving_last
  let opened : Shop Memory := ⟨Seed.opened, .new {}⟩
  have hstored : opened.store.tiers.get? 1 = some Seed.tiers[0] := rfl
  obtain ⟨shop, hrespond, hget⟩ := respond_update_made hasked rfl hstored
  have hfull : ∃ u ∈ shop.store.tiers.tiers, u.orderIndex = Int32.maxValue :=
    ⟨_, List.mem_of_find?_eq_some hget, by decide +kernel⟩
  refine ⟨hvalid, rfl, _, shop, mapM_cons_eq_ok.mpr ⟨_, [], shop, hrespond, rfl, rfl⟩, ?_, ?_, ?_⟩
  · rw [finished_status]
    rfl
  · rw [Memory.run_createTier, overflows_map]
    exact (TierTable.overflows_create rfl).mpr (Or.inl hfull)
  · intro r moment user hadmitted hbody
    exact (respond_newTier_last hadmitted hbody hvalid rfl shop).1.mpr (Or.inl hfull)

end VolumePricing
