import VolumePricing.Proofs.Action
import VolumePricing.Store.Memory
import VolumePricing.Store.Outage

/-!
# Stores that refuse in time

A store is careful when its reading calls leave the state alone and its writing
calls are refused only before they have changed anything. The store in memory
is careful, and an outage does not change that: the calls it hits fail before
they touch the store.
-/

namespace VolumePricing

open VolumePricing.Action

variable {σ α : Type}

structure Store.Careful (s : Store σ) : Prop where
  listTiers : ∀ all, Reads (s.listTiers all)
  tier? : ∀ id, Reads (s.tier? id)
  listProducts : Reads s.listProducts
  product? : ∀ id, Reads (s.product? id)
  cart? : ∀ user, Reads (s.cart? user)
  createTier : ∀ t, Atomic (s.createTier t)
  updateTier : ∀ id u, Atomic (s.updateTier id u)
  deleteTier : ∀ id, Atomic (s.deleteTier id)
  reorderTiers : ∀ order, Atomic (s.reorderTiers order)
  updatePrices : ∀ id prices, Atomic (s.updatePrices id prices)
  addItem : ∀ user p q, Atomic (s.addItem user p q)
  setQuantity : ∀ user p q, Atomic (s.setQuantity user p q)
  removeItem : ∀ user p, Atomic (s.removeItem user p)

/-- The active tiers are read without a refusal, whatever the store answers. -/
theorem Store.Careful.reads_activeTiers {s : Store σ} (hs : s.Careful) : Reads s.activeTiers := by
  intro st r st' h
  rw [Store.activeTiers, run_tryCatch] at h
  rcases hr : s.listTiers false st with o | ⟨e | tiers, st₁⟩
  · simp [hr] at h
  · have hst := hs.listTiers false st _ st₁ hr
    simp only [hr, run_pure, Except.ok.injEq, Prod.mk.injEq] at h
    exact h.2 ▸ hst
  · have hst := hs.listTiers false st _ st₁ hr
    simp only [hr, Except.ok.injEq, Prod.mk.injEq] at h
    exact h.2 ▸ hst

theorem TierTable.ofTiers_tiers {s : TierTable} {tiers : List PriceTier}
    (h : TierTable.ofTiers tiers = .ok s) : s.tiers = tiers := by
  unfold TierTable.ofTiers at h
  cases hn : Checked.addUInt32 ((tiers.map (·.id)).max?.getD 0) 1 with
  | error o => simp [hn, bind, Except.bind] at h
  | ok nextId =>
    simp only [hn, bind, Except.bind] at h
    cases h
    rfl

namespace Memory

/-- What a store holds at first. -/
theorem holding_eq_ok {tiers : List PriceTier} {products : List Product} {m : Memory}
    (h : holding tiers products = .ok m) :
    m.tiers.tiers = tiers ∧ m.products = .ofProducts products ∧ m.carts = .empty := by
  unfold holding at h
  cases htiers : TierTable.ofTiers tiers with
  | error o => simp [htiers, bind, Except.bind] at h
  | ok table =>
    rw [htiers] at h
    cases h
    exact ⟨TierTable.ofTiers_tiers htiers, rfl, rfl⟩

@[simp] theorem run_read (f : Memory → α) (m : Memory) : read f m = .ok (.ok (f m), m) := rfl

theorem run_activeTiers (m : Memory) :
    store.activeTiers m = .ok (.ok (m.tiers.list false), m) := by
  rw [Store.activeTiers, run_tryCatch]
  rfl

theorem run_change (f : Memory → Checked (Except StoreError (α × Memory))) (m : Memory) :
    change f m =
      match f m with
      | .error o => .error o
      | .ok (.error e) => .ok (.error e, m)
      | .ok (.ok (a, m')) => .ok (.ok a, m') := by
  unfold change
  simp only [run_bind, run_get, run_checked]
  rcases f m with o | e | ⟨a, m'⟩ <;> rfl

theorem reads_read (f : Memory → α) : Reads (read f) := by
  intro m r m' h
  cases h
  rfl

theorem atomic_change (f : Memory → Checked (Except StoreError (α × Memory))) :
    Atomic (change f) := by
  intro m e m' h
  rw [run_change] at h
  rcases hf : f m with o | e' | ⟨a, m₁⟩ <;> rw [hf] at h <;> cases h
  rfl

/-- What every change that is made leaves is left by the call. -/
theorem keeps_change {P : Memory → Prop} {f : Memory → Checked (Except StoreError (α × Memory))}
    (hf : ∀ m a m', P m → f m = .ok (.ok (a, m')) → P m') : Keeps P (change f) := by
  intro m r m' hm h
  rw [run_change] at h
  rcases hfm : f m with o | e | ⟨a, m₁⟩ <;> rw [hfm] at h <;> cases h
  · exact hm
  · exact hf m a m' hm hfm

theorem store_careful : store.Careful where
  listTiers _ := reads_read _
  tier? _ := reads_read _
  listProducts := reads_read _
  product? _ := reads_read _
  cart? _ := reads_read _
  createTier _ := atomic_change _
  updateTier _ _ := atomic_change _
  deleteTier _ := atomic_change _
  reorderTiers _ := atomic_change _
  updatePrices _ _ := atomic_change _
  addItem _ _ _ := atomic_change _
  setQuantity _ _ _ := atomic_change _
  removeItem _ _ := atomic_change _

end Memory

namespace Outage

variable (o : Outage)

/-- One of the calls is hit by the outage. -/
def hits (calls : List StoreCall) : Bool := calls.any o.calls.contains

/-- What a call that is hit is refused with. -/
def failure : StoreError := .storage (.reported o.reason)

theorem run_guard (calls : List StoreCall) (x : StoreAction σ α) (s : σ) :
    o.guard calls x s = if o.hits calls then .ok (.error o.failure, s) else x s := by
  unfold guard hits
  split <;> rfl

theorem reads_guard (calls : List StoreCall) {x : StoreAction σ α} (hx : Reads x) :
    Reads (o.guard calls x) := by
  unfold guard
  split
  · exact reads_throw _
  · exact hx

theorem atomic_guard (calls : List StoreCall) {x : StoreAction σ α} (hx : Atomic x) :
    Atomic (o.guard calls x) := by
  unfold guard
  split
  · exact (reads_throw _).atomic
  · exact hx

theorem keeps_guard {P : σ → Prop} (calls : List StoreCall) {x : StoreAction σ α}
    (hx : Keeps P x) : Keeps P (o.guard calls x) := by
  unfold guard
  split
  · exact (reads_throw _).keeps
  · exact hx

end Outage

theorem Store.Careful.during {s : Store σ} (hs : s.Careful) (o : Outage) :
    (s.during o).Careful where
  listTiers all := o.reads_guard _ (hs.listTiers all)
  tier? id := o.reads_guard _ (hs.tier? id)
  listProducts := o.reads_guard _ hs.listProducts
  product? id := o.reads_guard _ (hs.product? id)
  cart? user := o.reads_guard _ (hs.cart? user)
  createTier t := o.atomic_guard _ (hs.createTier t)
  updateTier id u := o.atomic_guard _ (hs.updateTier id u)
  deleteTier id := o.atomic_guard _ (hs.deleteTier id)
  reorderTiers order := o.atomic_guard _ (hs.reorderTiers order)
  updatePrices id prices := o.atomic_guard _ (hs.updatePrices id prices)
  addItem user p q := o.atomic_guard _ (hs.addItem user p q)
  setQuantity user p q := o.atomic_guard _ (hs.setQuantity user p q)
  removeItem user p := o.atomic_guard _ (hs.removeItem user p)

@[simp] theorem Store.during_none (s : Store σ) : s.during Outage.none = s := rfl

end VolumePricing
