import VolumePricing.Proofs.StableSort
import VolumePricing.Proofs.Tier.DefaultFlag

/-!
# How tiers are listed

Tiers stand in a table in the order of their ids: a new one comes last with an
id above all others, and no call moves a tier or changes its id. So a listing,
which sorts by order index and leaves the rest as it stands, goes by order index
and then by id. An id that was once given out is never given out again.
-/

namespace VolumePricing

/-- The first tier is listed before the second: by order index and then by id. -/
def PriceTier.Precedes (t u : PriceTier) : Prop :=
  t.orderIndex < u.orderIndex ∨ t.orderIndex = u.orderIndex ∧ t.id ≤ u.id

/-- Only tiers of one id precede each other. -/
theorem PriceTier.Precedes.same_id {t u : PriceTier} (h : t.Precedes u) (h' : u.Precedes t) :
    t.id = u.id := by
  simp only [Precedes, Int32.lt_iff_toInt_lt, UInt32.le_iff_toNat_le, ← Int32.toInt_inj] at h h'
  rw [← UInt32.toNat_inj]
  omega

namespace TierTable

variable {s s' : TierTable}

/-- The tiers stand in the order of their ids, and the next id is above them. -/
structure Rising (s : TierTable) : Prop where
  pairwise : (s.tiers.map (·.id)).Pairwise (· < ·)
  lt_nextId : ∀ id ∈ s.tiers.map (·.id), id < s.nextId

theorem Rising.numbered (h : s.Rising) : s.Numbered where
  nodup := h.pairwise.imp fun hlt heq => absurd (heq ▸ hlt) (UInt32.lt_irrefl _)
  lt_nextId := h.lt_nextId

theorem Rising.call {c : TierCall} (hs : s.Rising) (h : s.call c = .ok (.ok s')) : s'.Rising := by
  refine ⟨?_, (hs.numbered.call h).lt_nextId⟩
  rcases ids_call h with ⟨hsub, -⟩ | ⟨hids, -⟩
  · exact hs.pairwise.sublist hsub
  · rw [hids, List.pairwise_append]
    refine ⟨hs.pairwise, List.pairwise_singleton _ _, ?_⟩
    intro id hid new hnew
    rw [List.mem_singleton] at hnew
    exact hnew ▸ hs.lt_nextId id hid

/-- The ids that are given out only rise. -/
theorem nextId_call {c : TierCall} (h : s.call c = .ok (.ok s')) : s.nextId ≤ s'.nextId := by
  rcases ids_call h with ⟨-, hnext⟩ | ⟨-, hnext⟩
  · exact hnext ▸ UInt32.le_refl _
  · exact UInt32.le_of_lt hnext

theorem list_perm (s : TierTable) (all : Bool) :
    (s.list all).Perm (s.tiers.filter fun t => all || t.active) :=
  StableSort.sort_perm _ _

/-- The listing of a table whose tiers stand in the order of their ids. -/
theorem Rising.pairwise_list (h : s.Rising) (all : Bool) :
    (s.list all).Pairwise PriceTier.Precedes := by
  have hids : (s.tiers.filter fun t => all || t.active).Pairwise fun t u => t.id < u.id :=
    (List.pairwise_map.mp h.pairwise).sublist List.filter_sublist
  have hsorted : (s.list all).Pairwise
      (StableSort.Before (fun t => t.orderIndex) fun t u => t.id < u.id) :=
    StableSort.pairwise_sort hids
  apply hsorted.imp
  intro t u hbefore
  obtain ⟨hle, hlast⟩ : t.orderIndex ≤ u.orderIndex ∧ (u.orderIndex ≤ t.orderIndex → t.id < u.id) :=
    hbefore
  by_cases hge : u.orderIndex ≤ t.orderIndex
  · refine Or.inr ⟨?_, UInt32.le_of_lt (hlast hge)⟩
    rw [Int32.le_iff_toInt_le] at hle hge
    exact Int32.toInt_inj.mp (by omega)
  · refine Or.inl ?_
    rw [Int32.le_iff_toInt_le] at hge
    rw [Int32.lt_iff_toInt_lt]
    omega

/-- There is only one way to list the tiers of a table in that order. -/
theorem Rising.eq_list {all : Bool} {tiers : List PriceTier} (h : s.Rising)
    (hperm : tiers.Perm (s.tiers.filter fun t => all || t.active))
    (hsorted : tiers.Pairwise PriceTier.Precedes) : tiers = s.list all := by
  have hstored : ∀ t ∈ s.tiers.filter (fun t => all || t.active), t ∈ s.tiers :=
    fun t ht => List.mem_of_mem_filter ht
  apply List.Perm.eq_of_pairwise _ hsorted (h.pairwise_list all) (hperm.trans (s.list_perm all).symm)
  intro t u ht hu htu hut
  have ht' := hstored t (hperm.mem_iff.mp ht)
  have hu' := hstored u ((s.list_perm all).mem_iff.mp hu)
  exact h.numbered.eq_of_id ht' hu' (htu.same_id hut)

end TierTable

end VolumePricing
