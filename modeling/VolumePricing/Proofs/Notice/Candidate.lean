import VolumePricing.Notice.Policy

/-!
# What two summaries have to say

Every reason for a notice names the tier of the new summary. None of them is
left when the tier and the units stay what they were, nor when the new summary
shows neither a tier nor a next one.
-/

namespace VolumePricing

variable {previous current : CartSummary} {n : Notice}

namespace Notice

theorem move?_tierId (h : move? previous current = some n) : n.tierId = current.tierId := by
  unfold move? at h
  split at h
  · rename_i p c _ hc
    split at h
    · cases h
      simp [unlocked, CartSummary.tierId, hc]
    · split at h
      · cases h
        simp [lost, CartSummary.tierId, hc]
      · cases h
  · cases h

theorem nearLoss?_tierId (h : nearLoss? previous current = some n) :
    n.tierId = current.tierId := by
  unfold nearLoss? at h
  split at h
  · rename_i p c _ hc
    split at h
    · cases h
      simp [nearLoss, CartSummary.tierId, hc]
    · cases h
  · cases h

theorem candidate_tierId (h : candidate previous current = some n) :
    n.tierId = current.tierId := by
  unfold candidate at h
  split at h
  · rename_i hmove
    cases h
    exact move?_tierId hmove
  · split at h
    · split at h
      · cases h
        rfl
      · cases h
    · exact nearLoss?_tierId h

/-- A move needs another tier on either side. -/
theorem move?_of_tierId_eq (h : current.tierId = previous.tierId) :
    move? previous current = none := by
  unfold move?
  split
  · rename_i p c hp hc
    have hid : c.id = p.id := by simpa [CartSummary.tierId, hp, hc] using h
    simp [hid]
  · rfl

theorem nearLoss?_of_totalQuantity_eq (h : current.totalQuantity = previous.totalQuantity) :
    nearLoss? previous current = none := by
  unfold nearLoss?
  split
  · simp [h]
  · rfl

/-- Nothing is said of a cart that keeps its tier and its units. -/
theorem candidate_of_settled (htier : current.tierId = previous.tierId)
    (hunits : current.totalQuantity = previous.totalQuantity) :
    candidate previous current = none := by
  unfold candidate
  rw [move?_of_tierId_eq htier]
  split
  · rename_i heq
    cases heq
  · split
    · rw [if_neg]
      simp [hunits]
    · exact nearLoss?_of_totalQuantity_eq hunits

/-- Nothing is said of a cart without a tier and without a next one. -/
theorem candidate_of_no_tier (htier : current.tier = none) (hnext : current.nextTier = none) :
    candidate previous current = none := by
  cases hp : previous.tier <;> simp [candidate, move?, nearLoss?, htier, hnext, hp]

end Notice

namespace NoticePolicy

variable {policy : NoticePolicy} {last : Option LastNotice} {now : Instant}

/-- What is shown was a candidate, whatever was shown before. -/
theorem candidate_of_evaluate (h : policy.evaluate previous current last now = some n) :
    Notice.candidate previous current = some n :=
  (Option.filter_eq_some_iff.mp h).1

end NoticePolicy

end VolumePricing
