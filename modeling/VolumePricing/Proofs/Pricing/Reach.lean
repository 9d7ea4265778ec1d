import VolumePricing.Proofs.Pricing.Ranking
import VolumePricing.Proofs.Summary.Pricing
import VolumePricing.Store.Seed

/-!
# The way to the next tier

Of the units of an order it matters only which active tiers they reach: these
alone decide which tier prices it. They change where a threshold is met and
nowhere else. With fewer units than the next tier asks for an order stays what
it is, with as many it reaches more, and where no tier is left to reach more
units change nothing.
-/

namespace VolumePricing

open PriceTier Checked

variable {tiers : List PriceTier} {t u : PriceTier} {quantity more : Int64} {next : NextTier}

namespace PriceTier

/-- The active tiers that an order of `quantity` units reaches. -/
def eligible (tiers : List PriceTier) (quantity : Int64) : List PriceTier :=
  tiers.filter fun t => t.active && t.reachedAt quantity

@[simp] theorem mem_eligible :
    t ∈ eligible tiers quantity ↔ t ∈ tiers ∧ t.active = true ∧ t.reachedAt quantity = true := by
  simp [eligible]

theorem eligible_congr
    (h : ∀ t ∈ tiers, t.active = true → t.reachedAt more = t.reachedAt quantity) :
    eligible tiers more = eligible tiers quantity := by
  apply List.filter_congr
  intro t ht
  cases hactive : t.active with
  | false => simp only [Bool.false_and]
  | true => simp only [h t ht hactive]

/-- More units reach no fewer tiers. -/
theorem eligible_sublist (hle : quantity ≤ more) :
    (eligible tiers quantity).Sublist (eligible tiers more) := by
  apply List.monotone_filter_right
  intro t ht
  rw [Bool.and_eq_true] at ht ⊢
  exact ⟨ht.1, reachedAt_of_le hle ht.2⟩

end PriceTier

theorem resolve_eq_eligible (tiers : List PriceTier) (quantity : Int64) :
    resolve tiers quantity =
      (StableSort.sort (·.orderIndex) (eligible tiers quantity)).head?.or (fallback? tiers) := by
  have hreached : (ranked tiers).filter (·.reachedAt quantity) =
      StableSort.sort (·.orderIndex) (eligible tiers quantity) := by
    rw [ranked, StableSort.filter_sort, List.filter_filter]
    simp only [eligible, Bool.and_comm]
  rw [resolve_eq_find?, ← List.head?_filter, hreached, fallback?]

/-- Orders that reach the same tiers are priced by the same tier. -/
theorem resolve_of_eligible (h : eligible tiers more = eligible tiers quantity) :
    resolve tiers more = resolve tiers quantity := by
  rw [resolve_eq_eligible, resolve_eq_eligible, h]

/-! ### The closest threshold -/

theorem closestAbove_le (h : closestAbove tiers quantity = some t) (hu : u ∈ tiers)
    (hactive : u.active = true) (hout : u.reachedAt quantity = false) :
    t.minQuantity ≤ u.minQuantity := by
  obtain ⟨ahead, behind, rfl, hforemost⟩ := foldl_lesser_eq_some_iff.mp h
  have hqualifies : (u.active && !u.reachedAt quantity) = true := by simp [hactive, hout]
  rcases List.mem_append.mp hu with hahead | hrest
  · exact Int64.le_of_lt (hforemost.before u hahead hqualifies)
  · rcases List.mem_cons.mp hrest with rfl | hbehind
    · exact Int64.le_refl _
    · exact hforemost.after u hbehind hqualifies

theorem closestAbove_eq_none_iff : closestAbove tiers quantity = none ↔
    ∀ t ∈ tiers, t.active = true → t.reachedAt quantity = true := by
  rw [closestAbove, ← find?_sort, List.find?_eq_none]
  simp

theorem eligible_of_lt (h : closestAbove tiers quantity = some t) (hle : quantity ≤ more)
    (hlt : more < t.minQuantity) : eligible tiers more = eligible tiers quantity := by
  apply eligible_congr
  intro u hu hactive
  cases hreached : u.reachedAt quantity with
  | true => exact reachedAt_of_le hle hreached
  | false =>
    have hleast := closestAbove_le h hu hactive hreached
    rw [not_reachedAt_iff, ← Int64.lt_iff_toInt_lt]
    exact Int64.lt_of_lt_of_le hlt hleast

theorem eligible_of_none (h : closestAbove tiers quantity = none) (hle : quantity ≤ more) :
    eligible tiers more = eligible tiers quantity := by
  apply eligible_congr
  intro t ht hactive
  have hreached := closestAbove_eq_none_iff.mp h t ht hactive
  rw [hreached]
  exact reachedAt_of_le hle hreached

/-! ### What a next tier promises -/

/-- Fewer units than the next tier asks for change nothing, and as many let the order reach a tier of
its name besides all that it reaches already. -/
structure NextTier.Awaits (next : NextTier) (tiers : List PriceTier) (quantity : Int64) : Prop where
  unlock_pos : 1 ≤ next.quantityToUnlock
  unlocks : addInt64 next.quantityToUnlock quantity = .ok next.minQuantity
  before : ∀ units, 0 ≤ units → units < next.quantityToUnlock →
    ∃ more, addInt64 quantity units = .ok more ∧ eligible tiers more = eligible tiers quantity ∧
      resolve tiers more = resolve tiers quantity
  keeps : (eligible tiers quantity).Sublist (eligible tiers next.minQuantity)
  gains : ∃ t ∈ eligible tiers next.minQuantity, t ∉ eligible tiers quantity ∧
    t.displayName = next.displayName

theorem awaits_of_nextTier (h : nextTier tiers quantity = .ok (some next)) :
    next.Awaits tiers quantity := by
  obtain ⟨t, hclosest, hname, hmin, hmissing⟩ := nextTier_eq_some_iff.mp h
  obtain ⟨hmem, hactive, hout⟩ := closestAbove_eq_some hclosest
  have hgap := Int64.lt_iff_toInt_lt.mp hout
  refine ⟨?_, ?_, ?_, ?_, t, ?_, ?_, hname.symm⟩
  · rw [Int64.le_iff_toInt_le, Int64.toInt_one]
    omega
  · rw [addInt64_eq_ok, hmin]
    omega
  · intro units hzero hunits
    rw [Int64.le_iff_toInt_le, Int64.toInt_zero] at hzero
    rw [Int64.lt_iff_toInt_lt] at hunits
    -- The sum stays below the threshold, which is a word.
    have hlow := quantity.le_toInt
    have hhigh := t.minQuantity.toInt_lt
    obtain ⟨more, hmore⟩ : ∃ more : Int64, more.toInt = quantity.toInt + units.toInt :=
      ⟨_, Int64.toInt_ofInt_of_le (by omega) (by omega)⟩
    have hsame : eligible tiers more = eligible tiers quantity := by
      apply eligible_of_lt hclosest
      · rw [Int64.le_iff_toInt_le]
        omega
      · rw [Int64.lt_iff_toInt_lt]
        omega
    exact ⟨more, addInt64_eq_ok.mpr hmore, hsame, resolve_of_eligible hsame⟩
  · rw [hmin]
    exact eligible_sublist (Int64.le_of_lt hout)
  · rw [hmin, mem_eligible, reachedAt_iff]
    exact ⟨hmem, hactive, Int.le_refl _⟩
  · rw [mem_eligible, reachedAt_iff]
    omega

theorem overflows_nextTier : Overflows (nextTier tiers quantity) ↔
    (∃ t ∈ tiers, t.active = true ∧ t.reachedAt quantity = false) ∧
      ∀ t ∈ tiers, t.active = true → t.reachedAt quantity = false →
        Int64.maxValue.toInt < t.minQuantity.toInt - quantity.toInt := by
  cases hclosest : closestAbove tiers quantity with
  | none =>
    have hall := closestAbove_eq_none_iff.mp hclosest
    rw [nextTier_of_none hclosest]
    constructor
    · intro hover
      exact absurd hover (not_overflows_ok _)
    · rintro ⟨⟨t, ht, hactive, hout⟩, -⟩
      rw [hall t ht hactive] at hout
      cases hout
  | some t =>
    obtain ⟨hmem, hactive, hlt⟩ := closestAbove_eq_some hclosest
    have hgap := Int64.lt_iff_toInt_lt.mp hlt
    have hout := not_reachedAt_iff.mpr hgap
    rw [nextTier_of_some hclosest, overflows_map, overflows_subInt64 hgap.le]
    constructor
    · intro hfar
      refine ⟨⟨t, hmem, hactive, hout⟩, ?_⟩
      intro u hu huactive huout
      have hleast := Int64.le_iff_toInt_le.mp (closestAbove_le hclosest hu huactive huout)
      omega
    · rintro ⟨-, hfar⟩
      exact hfar t hmem hactive hout

theorem closestAbove_of_nextTier_eq_none (h : nextTier tiers quantity = .ok none) :
    closestAbove tiers quantity = none := by
  cases hclosest : closestAbove tiers quantity with
  | none => rfl
  | some t =>
    rw [nextTier_of_some hclosest] at h
    cases hmissing : subInt64 t.minQuantity quantity <;> simp [hmissing, Except.map] at h

/-- What the next tier says of larger orders, and when the way to it has no number: all that is out
of reach is farther away than a word counts. -/
theorem nextTier_foretells (tiers : List PriceTier) (quantity : Int64) :
    (∀ next, nextTier tiers quantity = .ok (some next) → next.Awaits tiers quantity) ∧
    (nextTier tiers quantity = .ok none → ∀ more, quantity ≤ more →
      resolve tiers more = resolve tiers quantity) ∧
    (Overflows (nextTier tiers quantity) ↔
      (∃ t ∈ tiers, t.active = true ∧ t.reachedAt quantity = false) ∧
        ∀ t ∈ tiers, t.active = true → t.reachedAt quantity = false →
          Int64.maxValue.toInt < t.minQuantity.toInt - quantity.toInt) := by
  refine ⟨fun next => awaits_of_nextTier, ?_, overflows_nextTier⟩
  intro hnone more hle
  exact resolve_of_eligible (eligible_of_none (closestAbove_of_nextTier_eq_none hnone) hle)

/-- The tiers of a new shop, to an order of seven units and to one of twelve. -/
theorem nextTier_foretells_seed :
    let next : NextTier := ⟨"Wholesale 12+", 12, 5⟩
    nextTier Seed.tiers 7 = .ok (some next) ∧ next.Awaits Seed.tiers 7 ∧
      nextTier Seed.tiers 12 = .ok none ∧ resolve Seed.tiers 100 = resolve Seed.tiers 12 := by
  intro next
  have hnext : nextTier Seed.tiers 7 = .ok (some next) := by decide +kernel
  have hnone : nextTier Seed.tiers 12 = .ok none := by decide +kernel
  refine ⟨hnext, (nextTier_foretells Seed.tiers 7).1 next hnext, hnone, ?_⟩
  exact (nextTier_foretells Seed.tiers 12).2.1 hnone 100 (by decide)

end VolumePricing
