import VolumePricing.Proofs.Service.CartChanges
import VolumePricing.Proofs.Service.TierUpdates

/-!
# What endpoints are made of

An endpoint reads what it needs, makes at most one call that may change
something, and words its answer. So a property that reading and wording do not
harm holds of every endpoint as soon as it holds of those calls.
-/

namespace VolumePricing

open VolumePricing.Action
open Http (Request Response)

namespace Service

theorem access_of_cartChange? {endpoint : Endpoint} {r : Request} {asked : Extracted CartChange}
    (h : Extract.cartChange? r endpoint = some asked) : endpoint.access = .shopper := by
  cases endpoint <;> first | rfl | cases h

/-- The property holds of the calls that only staff cause. A tier is created, and an update made,
only when it validates. -/
structure StaffCalls {σ : Type} (s : Service σ) (G : (α : Type) → ServiceAction σ α → Prop)
    (r : Request) (endpoint : Endpoint) : Prop where
  createTier : ∀ t, t.validate = .ok () → G _ (call (s.store.createTier t))
  updateTier : ∀ id u, Extract.tierUpdate? r endpoint = some (.ok (id, u)) →
    u.validate = .ok () → G _ (call (s.store.updateTier id u))
  deleteTier : ∀ id, G _ (call (s.store.deleteTier id))
  reorderTiers : ∀ order, G _ (call (s.store.reorderTiers order))
  renew : endpoint = .recalculate → ∀ tiers (products : List Product),
    G _ (call (products.mapM (s.repriceProduct tiers)))

theorem StaffCalls.imp {σ : Type} {s : Service σ} {G H : (α : Type) → ServiceAction σ α → Prop}
    {r : Request} {endpoint : Endpoint} (h : s.StaffCalls G r endpoint)
    (hGH : ∀ {α : Type} {x : ServiceAction σ α}, G α x → H α x) : s.StaffCalls H r endpoint where
  createTier t hvalid := hGH (h.createTier t hvalid)
  updateTier id u hasked hvalid := hGH (h.updateTier id u hasked hvalid)
  deleteTier id := hGH (h.deleteTier id)
  reorderTiers order := hGH (h.reorderTiers order)
  renew hrenew tiers products := hGH (h.renew hrenew tiers products)

variable {σ : Type} {s : Service σ} (hs : s.store.Careful)
  {G : (α : Type) → ServiceAction σ α → Prop} (hG : Robust G) {user : String} {r : Request}
  {moment : Moment}
include hs hG

theorem write_of_calls {c : CartChange}
    (addItem : ∀ p q, G _ (call (s.store.addItem user p q)))
    (setQuantity : ∀ p q, G _ (call (s.store.setQuantity user p q)))
    (removeItem : ∀ p, G _ (call (s.store.removeItem user p))) : G _ (s.write user c) := by
  cases c with
  | add item =>
    have made : G _ (do
        let product ← s.product item.productId
        let _ ← call (s.store.addItem user product item.quantity)) :=
      hG.reads_bind (reads_product hs _) fun product =>
        hG.answered _ (addItem product item.quantity)
    by_cases hq : item.quantity ≤ 0
    · simp only [write, if_pos hq]
      exact hG.reads_bind (reads_throw _) fun _ => made
    · simp only [write, if_neg hq]
      exact made
  | set productId quantity => exact hG.answered _ (setQuantity productId quantity)
  | remove productId => exact hG.answered _ (removeItem productId)

theorem recalculate_of_calls
    (renew : ∀ tiers (products : List Product),
      G _ (call (products.mapM (s.repriceProduct tiers)))) : G _ s.recalculate := by
  have renewed : ∀ tiers, G _ (do
      let products ← call s.store.listProducts
      let renewed ← call (products.mapM (s.repriceProduct tiers))
      return ({
        totalProducts := products.length
        updated := renewed.count true
        errors := renewed.count false
        tiersApplied := tiers.length } : Recalculation)) := fun tiers =>
    hG.reads_bind (reads_call hs.listProducts) fun products => hG.answered _ (renew tiers products)
  refine hG.reads_bind (reads_call (hs.listTiers _)) fun tiers => ?_
  by_cases hempty : tiers.isEmpty
  · simp only [if_pos hempty]
    exact hG.reads_bind (reads_throw _) fun _ => renewed tiers
  · simp only [if_neg hempty]
    exact renewed tiers

/-- Besides the calls of staff there are changes of a cart and the refresh to look at. -/
theorem run_of_calls {endpoint : Endpoint}
    (change : ∀ c, Extract.cartChange? r endpoint = some (.ok c) → G _ (s.change user moment c))
    (staff : endpoint.access = .staff → s.StaffCalls G r endpoint)
    (refresh : endpoint.access = .shopper → G _ (s.refresh user moment)) :
    G _ (s.run endpoint user r moment) := by
  cases hasked : Extract.cartChange? r endpoint with
  | some asked =>
    rw [run_cartChange hasked]
    exact hG.except_bind fun c hc => change c (hc ▸ hasked)
  | none =>
  cases endpoint with
  | health => exact hG.reads (reads_pure _)
  | guestLogin => exact hG.reads ((reads_checked _).bind fun _ => reads_pure _)
  | listTiers =>
    exact hG.reads_bind (reads_except _) fun _ =>
      hG.answered _ (hG.reads (reads_call (hs.listTiers _)))
  | createTier =>
    exact hG.reads_bind (reads_except _) fun _ =>
      hG.answered _ (hG.except_bind fun _ hvalid =>
        (staff rfl).createTier _ (mapError_eq_ok.mp hvalid))
  | calculate =>
    exact hG.reads_bind (reads_except _) fun _ =>
      hG.answered _ (hG.reads ((reads_call (hs.listTiers _)).bind fun _ => reads_pure _))
  | reorderTiers =>
    exact hG.reads_bind (reads_except _) fun _ => hG.answered _ ((staff rfl).reorderTiers _)
  | recalculate => exact hG.answered _ (recalculate_of_calls hs hG ((staff rfl).renew rfl))
  | getTier place =>
    exact hG.reads_bind (reads_except _) fun _ =>
      hG.answered _ (hG.reads ((reads_call (hs.tier? _)).bind fun _ => reads_require _ _))
  | updateTier place =>
    refine hG.except_bind fun id hid => hG.except_bind fun u hu => hG.answered _ ?_
    refine hG.except_bind fun _ hvalid => (staff rfl).updateTier id u ?_ (mapError_eq_ok.mp hvalid)
    simp [Extract.tierUpdate?, hid, hu, Except.bind, Except.map]
  | deleteTier place =>
    exact hG.reads_bind (reads_except _) fun _ => hG.answered _ ((staff rfl).deleteTier _)
  | summary => exact hG.answered _ (refresh rfl)
  | addItem => cases hasked
  | updateItem place => cases hasked
  | removeItem place => cases hasked
  | notifications => exact hG.reads (reads_pure _)
  | guestPrice =>
    exact hG.reads_bind (reads_except _) fun _ =>
      hG.answered _ (hG.reads (reads_guestPrice hs _))

end Service

end VolumePricing
