import VolumePricing.Proofs.Runs
import VolumePricing.Proofs.Store.Careful

/-!
# Runs of calls on the tiers

Staff change the tiers by four calls. A run makes calls one after another,
whether or not they are refused; it ends early only by an overflow. In a store
in memory a run works on the table of tiers alone, and a refused call leaves
the table as it was.
-/

namespace VolumePricing

open VolumePricing.Action

/-- A call that changes the tiers of a store. -/
inductive TierCall
  | create (tier : PriceTier)
  | update (id : UInt32) (update : TierUpdate)
  | delete (id : UInt32)
  | reorder (order : List TierOrder)
  deriving DecidableEq, Repr

namespace TierCall

variable {σ : Type}

/-- Makes the call on a store. -/
def on (store : Store σ) : TierCall → StoreAction σ Unit
  | .create t => do
    let _ ← store.createTier t
    return
  | .update id u => do
    let _ ← store.updateTier id u
    return
  | .delete id => store.deleteTier id
  | .reorder order => store.reorderTiers order

/-- Makes all the calls, and tells which of them were refused. -/
def runAll (store : Store σ) (calls : List TierCall) :
    StateT σ (Except Overflow) (List (Except StoreError Unit)) :=
  calls.mapM fun c => (c.on store).run

end TierCall

namespace TierTable

/-- The table that a call leads to, or why it is refused. -/
def call (s : TierTable) : TierCall → Checked (Except StoreError TierTable)
  | .create t => (s.create t).map fun p => .ok p.2
  | .update id u => .ok ((s.update id u).map (·.2))
  | .delete id => .ok (s.delete id)
  | .reorder order => .ok (.ok (s.reorder order))

variable {s s' : TierTable}

theorem call_create_eq_ok {t : PriceTier} :
    s.call (.create t) = .ok (.ok s') ↔ ∃ created, s.create t = .ok (created, s') := by
  rw [call]
  rcases s.create t with o | ⟨created, s₁⟩ <;> simp [Except.map]

theorem call_update_eq_ok {id : UInt32} {u : TierUpdate} :
    s.call (.update id u) = .ok (.ok s') ↔ ∃ updated, s.update id u = .ok (updated, s') := by
  rw [call]
  rcases s.update id u with e | ⟨updated, s₁⟩ <;> simp [Except.map]

end TierTable

theorem Memory.run_createTier (t : PriceTier) (m : Memory) :
    Memory.store.createTier t m =
      (m.tiers.create t).map fun p => (.ok p.1, { m with tiers := p.2 }) := by
  change Memory.change _ m = _
  rw [Memory.run_change]
  rcases m.tiers.create t with o | p <;> rfl

theorem Memory.run_updateTier (id : UInt32) (u : TierUpdate) (m : Memory) :
    Memory.store.updateTier id u m = .ok (match m.tiers.update id u with
      | .error e => (.error e, m)
      | .ok (t, tiers) => (.ok t, { m with tiers })) := by
  change Memory.change _ m = _
  rw [Memory.run_change]
  rcases m.tiers.update id u with e | ⟨t, tiers⟩ <;> rfl

/-- A call on a store in memory is one on its table of tiers. -/
theorem TierCall.on_memory (c : TierCall) (m : Memory) :
    c.on Memory.store m =
      match m.tiers.call c with
      | .error o => .error o
      | .ok (.error e) => .ok (.error e, m)
      | .ok (.ok tiers) => .ok (.ok (), { m with tiers }) := by
  cases c with
  | create t =>
    simp only [on, Memory.store, run_bind, Memory.run_change, TierTable.call]
    rcases m.tiers.create t with o | ⟨created, tiers⟩ <;> rfl
  | update id u =>
    simp only [on, Memory.store, run_bind, Memory.run_change, TierTable.call]
    rcases m.tiers.update id u with e | ⟨updated, tiers⟩ <;> rfl
  | delete id =>
    simp only [on, Memory.store, Memory.run_change, TierTable.call]
    rcases m.tiers.delete id with e | tiers <;> rfl
  | reorder order => rfl

/-- What a call on a store in memory keeps is a matter of the table. -/
theorem TierCall.on_memory_keeps {P : TierTable → Prop} {c : TierCall}
    (step : ∀ s s', P s → s.call c = .ok (.ok s') → P s') {m m' : Memory}
    {answer : Except StoreError Unit} (hm : P m.tiers)
    (h : c.on Memory.store m = .ok (answer, m')) : P m'.tiers := by
  rw [on_memory] at h
  rcases hc : m.tiers.call c with o | e | tiers <;> rw [hc] at h <;> cases h
  · exact hm
  · exact step m.tiers tiers hm hc

end VolumePricing
