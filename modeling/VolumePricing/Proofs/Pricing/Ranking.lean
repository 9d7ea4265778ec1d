import Mathlib
import VolumePricing.Proofs.Pricing.Least

/-!
# Ranks and thresholds

Two rules pick a tier. An order is priced by the tier that ranks first among
those it reaches; the next tier is the one of smallest threshold among those it
does not reach, whatever its rank. One unit more than an order has can only
reach that next tier, so what ranks ahead of it and was reached before still
prices the order.
-/

namespace VolumePricing

variable {tiers ahead behind : List PriceTier} {t u : PriceTier} {quantity : Int64}

namespace PriceTier

/-- The tiers as a shop lists them. -/
def Ordered (tiers : List PriceTier) : Prop :=
  tiers.Pairwise fun t u => t.orderIndex ≤ u.orderIndex

instance : Decidable (Ordered tiers) := inferInstanceAs (Decidable (tiers.Pairwise _))

theorem Ordered.ranked_eq (h : Ordered tiers) : ranked tiers = tiers.filter (·.active) :=
  StableSort.sort_of_pairwise (h.filter _)

theorem reachedAt_iff : t.reachedAt quantity = true ↔ t.minQuantity.toInt ≤ quantity.toInt := by
  simp [reachedAt, Int64.le_iff_toInt_le]

theorem not_reachedAt_iff :
    t.reachedAt quantity = false ↔ quantity.toInt < t.minQuantity.toInt := by
  simp [reachedAt, Int64.lt_iff_toInt_lt]

/-- The first default tier of the ranking, for orders that reach none. -/
def fallback? (tiers : List PriceTier) : Option PriceTier := (ranked tiers).find? (·.isDefault)

/-- No active tier is reached. -/
def NoneReached (tiers : List PriceTier) (quantity : Int64) : Prop :=
  ∀ t ∈ tiers, t.active = true → t.reachedAt quantity = false

end PriceTier

open PriceTier

theorem find?_reachedAt_eq_none :
    (ranked tiers).find? (·.reachedAt quantity) = none ↔ NoneReached tiers quantity := by
  simp [NoneReached, List.find?_eq_none]

/-- Of the ranked tiers that are reached the one of lowest index is the first. -/
theorem resolve_eq_find? (tiers : List PriceTier) (quantity : Int64) :
    resolve tiers quantity =
      ((ranked tiers).find? (·.reachedAt quantity)).or ((ranked tiers).find? (·.isDefault)) := by
  have hsorted := (StableSort.pairwise_key_sort (fun t : PriceTier => t.orderIndex)
    (tiers.filter (·.active))).filter (·.reachedAt quantity)
  rw [resolve, ranked, foldl_lesser_of_pairwise hsorted, List.head?_filter]

theorem resolve_of_find? (h : (ranked tiers).find? (·.reachedAt quantity) = some t) :
    resolve tiers quantity = some t := by
  simp [resolve_eq_find?, h]

theorem resolve_of_noneReached (h : NoneReached tiers quantity) :
    resolve tiers quantity = fallback? tiers := by
  simp [resolve_eq_find?, fallback?, find?_reachedAt_eq_none.mpr h]

/-- The tier of an order is active. It is reached, or else nothing is. -/
theorem resolve_eq_some (h : resolve tiers quantity = some t) :
    t ∈ tiers ∧ t.active = true ∧
      (t.reachedAt quantity = true ∨ NoneReached tiers quantity ∧ fallback? tiers = some t) := by
  cases hfind : (ranked tiers).find? (·.reachedAt quantity) with
  | some r =>
    rw [resolve_of_find? hfind] at h
    cases h
    obtain ⟨hmem, hactive⟩ := mem_ranked.mp (List.mem_of_find?_eq_some hfind)
    have hreached := List.find?_some hfind
    exact ⟨hmem, hactive, Or.inl hreached⟩
  | none =>
    have hnone := find?_reachedAt_eq_none.mp hfind
    rw [resolve_of_noneReached hnone] at h
    obtain ⟨hmem, hactive⟩ := mem_ranked.mp (List.mem_of_find?_eq_some h)
    exact ⟨hmem, hactive, Or.inr ⟨hnone, h⟩⟩

/-- A tier that is out of reach prices an order only as the one to fall back on. -/
theorem resolve_eq_some_iff_of_not_reachedAt (hout : t.reachedAt quantity = false) :
    resolve tiers quantity = some t ↔ NoneReached tiers quantity ∧ fallback? tiers = some t := by
  constructor
  · intro h
    obtain ⟨-, -, hreached | hfallback⟩ := resolve_eq_some h
    · rw [hout] at hreached
      cases hreached
    · exact hfallback
  · rintro ⟨hnone, hfallback⟩
    rw [resolve_of_noneReached hnone, hfallback]

/-! ### Larger orders -/

/-- Where more entries match, the first match stays or an entry comes first that did not match. -/
theorem find?_of_imp {α : Type} {p q : α → Bool} (himp : ∀ x, p x = true → q x = true) {xs : List α}
    {x : α} (h : xs.find? p = some x) : ∃ y, xs.find? q = some y ∧ (y = x ∨ p y = false) := by
  obtain ⟨hx, front, back, rfl, hfront⟩ := List.find?_eq_some_iff_append.mp h
  cases hfind : front.find? q with
  | some y =>
    refine ⟨y, by simp [hfind], Or.inr ?_⟩
    simpa using hfront y (List.mem_of_find?_eq_some hfind)
  | none => exact ⟨x, by simp [hfind, himp x hx], Or.inl rfl⟩

theorem PriceTier.reachedAt_of_le {more : Int64} (hle : quantity ≤ more)
    (h : t.reachedAt quantity = true) : t.reachedAt more = true := by
  rw [Int64.le_iff_toInt_le] at hle
  rw [reachedAt_iff] at h ⊢
  omega

/-- A larger order keeps the tier that the smaller one reached, or reaches one that the smaller
did not. -/
theorem resolve_of_reachedAt_of_le {more : Int64} (hle : quantity ≤ more)
    (h : resolve tiers quantity = some t) (hreached : t.reachedAt quantity = true) :
    ∃ u, resolve tiers more = some u ∧ (u = t ∨ u.reachedAt quantity = false) := by
  obtain ⟨hmem, hactive, -⟩ := resolve_eq_some h
  cases hfind : (ranked tiers).find? (·.reachedAt quantity) with
  | none =>
    have hnone := find?_reachedAt_eq_none.mp hfind t hmem hactive
    rw [hreached] at hnone
    cases hnone
  | some r =>
    obtain rfl : r = t := Option.some.inj ((resolve_of_find? hfind).symm.trans h)
    obtain ⟨u, hu, hnew⟩ := find?_of_imp (fun _ => reachedAt_of_le hle) hfind
    exact ⟨u, resolve_of_find? hu, hnew⟩

/-! ### The next tier -/

/-- The tier that is announced to an order: active, out of reach, and before all others that are
no farther away. -/
structure IsNext (quantity : Int64) (ahead : List PriceTier) (t : PriceTier) : Prop where
  active : t.active = true
  unreached : quantity < t.minQuantity
  before : ∀ u ∈ ahead, u.active = true → quantity < u.minQuantity → t.minQuantity < u.minQuantity

theorem exists_isNext (h : closestAbove tiers quantity = some t) :
    ∃ ahead behind, tiers = ahead ++ t :: behind ∧ IsNext quantity ahead t := by
  obtain ⟨ahead, behind, htiers, hforemost⟩ := foldl_lesser_eq_some_iff.mp h
  have hout := hforemost.holds
  simp only [Bool.and_eq_true, Bool.not_eq_true', not_reachedAt_iff] at hout
  refine ⟨ahead, behind, htiers, hout.1, Int64.lt_iff_toInt_lt.mpr hout.2, ?_⟩
  intro u hu hactive hgap
  refine hforemost.before u hu ?_
  simpa [hactive, not_reachedAt_iff] using Int64.lt_iff_toInt_lt.mp hgap

/-- The tier of an order is one of these, and the order reaches it. -/
def PricedAmong (ahead : List PriceTier) (tier : Option PriceTier) (quantity : Int64) : Prop :=
  ∃ t ∈ ahead, tier = some t ∧ t.reachedAt quantity = true

section OneMore

variable {more : Int64}

theorem IsNext.reachedAt_ahead (h : IsNext quantity ahead t)
    (hstep : t.minQuantity.toInt = quantity.toInt + 1) (hmore : more.toInt = quantity.toInt + 1)
    (hu : u ∈ ahead) (hactive : u.active = true) : u.reachedAt more = u.reachedAt quantity := by
  have hgap := h.before u hu hactive
  rw [Int64.lt_iff_toInt_lt, Int64.lt_iff_toInt_lt] at hgap
  rw [Bool.eq_iff_iff, reachedAt_iff, reachedAt_iff]
  omega

/-- A unit more is priced by the next tier it reaches, or as before when the tier of the order is
reached and comes ahead of that. -/
theorem IsNext.resolve_one_more (h : IsNext quantity ahead t) (htiers : tiers = ahead ++ t :: behind)
    (hordered : Ordered tiers) (hstep : t.minQuantity.toInt = quantity.toInt + 1)
    (hmore : more.toInt = quantity.toInt + 1) :
    (PricedAmong ahead (resolve tiers quantity) quantity →
      resolve tiers more = resolve tiers quantity) ∧
    (¬ PricedAmong ahead (resolve tiers quantity) quantity → resolve tiers more = some t) := by
  have hranked : ranked tiers = ahead.filter (·.active) ++ t :: behind.filter (·.active) := by
    rw [hordered.ranked_eq, htiers, List.filter_append, List.filter_cons_of_pos h.active]
  have hsame : (ahead.filter (·.active)).find? (·.reachedAt more) =
      (ahead.filter (·.active)).find? (·.reachedAt quantity) := by
    apply List.find?_congr
    intro u hu
    obtain ⟨hmem, hactive⟩ := List.mem_filter.mp hu
    exact h.reachedAt_ahead hstep hmore hmem hactive
  cases hfind : (ahead.filter (·.active)).find? (·.reachedAt quantity) with
  | some r =>
    have hnow : resolve tiers quantity = some r :=
      resolve_of_find? (by rw [hranked, List.find?_append, hfind]; rfl)
    have hthen : resolve tiers more = some r :=
      resolve_of_find? (by rw [hranked, List.find?_append, hsame, hfind]; rfl)
    have hmem := (List.mem_filter.mp (List.mem_of_find?_eq_some hfind)).1
    have hreached := List.find?_some hfind
    refine ⟨fun _ => hthen.trans hnow.symm, fun hno => ?_⟩
    exact absurd ⟨r, hmem, hnow, hreached⟩ hno
  | none =>
    have hreached : t.reachedAt more = true := by
      rw [reachedAt_iff]
      omega
    have hthen : resolve tiers more = some t := by
      apply resolve_of_find?
      rw [hranked, List.find?_append, hsame, hfind]
      simp [hreached]
    refine ⟨?_, fun _ => hthen⟩
    rintro ⟨u, hu, hresolve, hreached⟩
    have hactive := (resolve_eq_some hresolve).2.1
    have hout := List.find?_eq_none.mp hfind u (List.mem_filter.mpr ⟨hu, hactive⟩)
    exact absurd hreached hout

end OneMore

end VolumePricing
