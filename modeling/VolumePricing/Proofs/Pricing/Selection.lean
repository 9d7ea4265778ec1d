import Mathlib
import VolumePricing.Proofs.FirstMatch
import VolumePricing.Proofs.Pricing.Ranking
import VolumePricing.Store.Seed

/-!
# Which tier is selected

A tier prices an order when it comes first, by order index and then by place in
the list, among the active tiers that the order reaches, or when none is reached
and it comes first among the active defaults. Inactive tiers have no say in
this, and of the order in which tiers are listed it matters only how tiers of
one index follow each other.
-/

namespace VolumePricing

open PriceTier

variable {tiers tiers' ahead behind : List PriceTier} {t : PriceTier} {quantity : Int64}

namespace PriceTier

/-- The tier comes first among the active tiers with `p`. -/
def LeadsThose (p : PriceTier → Bool) : List PriceTier → PriceTier → List PriceTier → Prop :=
  Foremost (fun u => u.active && p u) (·.orderIndex)

/-- No active tier is a default. -/
def NoDefault (tiers : List PriceTier) : Prop :=
  ∀ t ∈ tiers, t.active = true → t.isDefault = false

/-- Both lists have the same tiers of each order index, in the same order. -/
def SameByIndex (tiers tiers' : List PriceTier) : Prop :=
  ∀ index, tiers.filter (·.orderIndex = index) = tiers'.filter (·.orderIndex = index)

/-- So the one is a rearrangement of the other. -/
theorem SameByIndex.perm (h : SameByIndex tiers tiers') : tiers.Perm tiers' := by
  apply List.perm_iff_count.mpr
  intro t
  have hcount := congrArg (List.count t) (h t.orderIndex)
  rwa [List.count_filter (by simp), List.count_filter (by simp)] at hcount

/-- Tiers that share no order index may be rearranged in any way. -/
theorem SameByIndex.of_perm (h : tiers.Perm tiers') (hnodup : (tiers.map (·.orderIndex)).Nodup) :
    SameByIndex tiers tiers' :=
  fun index => filter_key_eq_of_perm index h hnodup

end PriceTier

theorem find?_ranked_eq_some_iff {p : PriceTier → Bool} : (ranked tiers).find? p = some t ↔
    ∃ ahead behind, tiers = ahead ++ t :: behind ∧ LeadsThose p ahead t behind := by
  rw [ranked, find?_sort, List.filter_filter]
  simp only [Bool.and_comm (p _)]
  exact foldl_lesser_eq_some_iff

theorem fallback?_eq_none_iff : fallback? tiers = none ↔ NoDefault tiers := by
  simp [fallback?, NoDefault, List.find?_eq_none]

theorem resolve_eq_some_iff : resolve tiers quantity = some t ↔
    ∃ ahead behind, tiers = ahead ++ t :: behind ∧
      (LeadsThose (·.reachedAt quantity) ahead t behind ∨
        NoneReached tiers quantity ∧ LeadsThose (·.isDefault) ahead t behind) := by
  cases hfind : (ranked tiers).find? (·.reachedAt quantity) with
  | some r =>
    have hreached : ¬ NoneReached tiers quantity := by
      rw [← find?_reachedAt_eq_none, hfind]
      exact Option.some_ne_none r
    rw [resolve_of_find? hfind, ← hfind, find?_ranked_eq_some_iff]
    simp only [hreached, false_and, or_false]
  | none =>
    have hnone := find?_reachedAt_eq_none.mp hfind
    rw [resolve_of_noneReached hnone, fallback?, find?_ranked_eq_some_iff]
    constructor
    · rintro ⟨ahead, behind, htiers, hleads⟩
      exact ⟨ahead, behind, htiers, Or.inr ⟨hnone, hleads⟩⟩
    · rintro ⟨ahead, behind, htiers, hleads | ⟨-, hleads⟩⟩
      · have hsome := find?_ranked_eq_some_iff.mpr ⟨ahead, behind, htiers, hleads⟩
        rw [hfind] at hsome
        cases hsome
      · exact ⟨ahead, behind, htiers, hleads⟩

theorem resolve_eq_none_iff :
    resolve tiers quantity = none ↔ NoneReached tiers quantity ∧ NoDefault tiers := by
  rw [resolve_eq_find?, Option.or_eq_none_iff, find?_reachedAt_eq_none, ← fallback?_eq_none_iff]
  rfl

/-! ### Listings that select the same -/

theorem resolve_congr (h : ranked tiers = ranked tiers') :
    resolve tiers quantity = resolve tiers' quantity := by
  rw [resolve, resolve, h]

theorem ranked_of_filter_active (h : tiers.filter (·.active) = tiers'.filter (·.active)) :
    ranked tiers = ranked tiers' :=
  congrArg (StableSort.sort fun t : PriceTier => t.orderIndex) h

theorem PriceTier.SameByIndex.ranked_eq (h : SameByIndex tiers tiers') :
    ranked tiers = ranked tiers' := by
  apply StableSort.sort_congr
  intro index
  rw [List.filter_filter, List.filter_filter]
  simp only [Bool.and_comm (decide _)]
  rw [← List.filter_filter, ← List.filter_filter, h index]

/-- A listing ranks as the table does, whether it shows the inactive tiers or not. -/
theorem ranked_list (s : TierTable) (all : Bool) : ranked (s.list all) = ranked s.tiers := by
  have hsorted := StableSort.pairwise_key_sort (fun t : PriceTier => t.orderIndex)
    (s.tiers.filter (·.active))
  have hactive : (s.list all).filter (·.active) = ranked s.tiers := by
    rw [TierTable.list, StableSort.filter_sort, List.filter_filter]
    congr 2
    funext t
    cases t.active <;> simp
  rw [ranked, hactive]
  exact StableSort.sort_of_pairwise hsorted

/-- The tier of an order, said of the list alone: when it is the one given, when there is none, and
which lists agree on it. -/
theorem resolve_selects (tiers : List PriceTier) (quantity : Int64) :
    (∀ t, resolve tiers quantity = some t ↔ ∃ ahead behind, tiers = ahead ++ t :: behind ∧
      (LeadsThose (·.reachedAt quantity) ahead t behind ∨
        NoneReached tiers quantity ∧ LeadsThose (·.isDefault) ahead t behind)) ∧
    (resolve tiers quantity = none ↔ NoneReached tiers quantity ∧ NoDefault tiers) ∧
    (∀ tiers', tiers'.filter (·.active) = tiers.filter (·.active) →
      resolve tiers' quantity = resolve tiers quantity) ∧
    (∀ tiers', SameByIndex tiers' tiers → resolve tiers' quantity = resolve tiers quantity) ∧
    ∀ (s : TierTable) (all : Bool), s.tiers = tiers →
      resolve (s.list all) quantity = resolve tiers quantity := by
  refine ⟨fun t => resolve_eq_some_iff, resolve_eq_none_iff, ?_, ?_, ?_⟩
  · intro tiers' hactive
    exact resolve_congr (ranked_of_filter_active hactive)
  · intro tiers' hsame
    exact resolve_congr hsame.ranked_eq
  · rintro s all rfl
    exact resolve_congr (ranked_list s all)

/-- A tier that is out of use, in front of the tiers of a new shop, and these in reverse. -/
theorem resolve_selects_seed :
    let retired : PriceTier := { id := 4, displayName := "Retired", orderIndex := 1, active := false }
    resolve (retired :: Seed.tiers) 7 = resolve Seed.tiers 7 ∧
      resolve Seed.tiers.reverse 7 = resolve Seed.tiers 7 := by
  intro retired
  obtain ⟨-, -, hactive, hsame, -⟩ := resolve_selects Seed.tiers 7
  constructor
  · exact hactive _ (List.filter_cons_of_neg Bool.false_ne_true)
  · apply hsame
    exact SameByIndex.of_perm (List.reverse_perm _) (by decide)

end VolumePricing
