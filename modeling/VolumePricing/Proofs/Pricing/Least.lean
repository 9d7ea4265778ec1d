import Mathlib
import VolumePricing.Pricing.Resolve
import VolumePricing.Proofs.StableSort

/-!
# The first of the least

Of all entries that qualify one is picked: the one of smallest key, and the
earliest in the list when several share that key. Keeping the best entry so far
finds it in one pass, and so does the first match in the sorted list.
-/

namespace VolumePricing

variable {α κ : Type} [LE κ] {p : α → Bool} {key : α → κ} {x y : α} {xs ys ahead behind : List α}

/-- Among the entries with `p` the one in the middle has the smallest key, and no other of that key
is ahead of it. -/
structure Foremost [LT κ] (p : α → Bool) (key : α → κ) (ahead : List α) (x : α) (behind : List α) :
    Prop where
  holds : p x = true
  before : ∀ y ∈ ahead, p y = true → key x < key y
  after : ∀ y ∈ behind, p y = true → key x ≤ key y

theorem Foremost.cons [LT κ] (h : Foremost p key ahead x behind) (hy : p y = true → key x < key y) :
    Foremost p key (y :: ahead) x behind :=
  ⟨h.holds, List.forall_mem_cons.mpr ⟨hy, h.before⟩, h.after⟩

variable [DecidableLE κ]

theorem foldl_lesser_some (h : ∀ y ∈ ys, key x ≤ key y) :
    ys.foldl (lesser key) (some x) = some x := by
  induction ys with
  | nil => rfl
  | cons y ys ih =>
    have hxy : lesser key (some x) y = some x := if_pos (h y List.mem_cons_self)
    rw [List.foldl_cons, hxy]
    exact ih fun z hz => h z (List.mem_cons_of_mem y hz)

/-- The fold ends with an entry of the list or with what it began with. -/
theorem foldl_lesser_mem {best : Option α} (h : xs.foldl (lesser key) best = some x) :
    x ∈ xs ∨ best = some x := by
  induction xs generalizing best with
  | nil => exact Or.inr h
  | cons y ys ih =>
    rcases ih h with hys | hy
    · exact Or.inl (List.mem_cons_of_mem y hys)
    · unfold lesser at hy
      split at hy
      · cases hy
        exact Or.inl List.mem_cons_self
      · split at hy
        · exact Or.inr hy
        · cases hy
          exact Or.inl List.mem_cons_self

/-- The best entry of a sorted list is its first one. -/
theorem foldl_lesser_of_pairwise (h : xs.Pairwise fun x y => key x ≤ key y) :
    xs.foldl (lesser key) none = xs.head? := by
  cases xs with
  | nil => rfl
  | cons x xs => exact foldl_lesser_some fun y hy => List.rel_of_pairwise_cons h hy

variable [LT κ] [Std.LawfulOrderLT κ] [Std.IsLinearPreorder κ]

theorem Foremost.foldl_lesser (h : Foremost p key ahead x behind) :
    ((ahead ++ x :: behind).filter p).foldl (lesser key) none = some x := by
  have hx : ∀ best, (∀ y, best = some y → key x < key y) → lesser key best x = some x := by
    intro best hbest
    cases best with
    | none => rfl
    | some y => exact if_neg (Std.not_le.mpr (hbest y rfl))
  rw [List.filter_append, List.filter_cons_of_pos h.holds, List.foldl_append, List.foldl_cons, hx]
  · apply foldl_lesser_some
    intro y hy
    obtain ⟨hmem, hp⟩ := List.mem_filter.mp hy
    exact h.after y hmem hp
  · intro y hy
    rcases foldl_lesser_mem hy with hmem | hnone
    · obtain ⟨hahead, hp⟩ := List.mem_filter.mp hmem
      exact h.before y hahead hp
    · cases hnone

/-- The first entry of a sorted list is the first of the least entries of the list itself. -/
theorem exists_foremost_of_sort (h : StableSort.sort key (xs.filter p) = x :: ys) :
    ∃ ahead behind, xs = ahead ++ x :: behind ∧ Foremost p key ahead x behind := by
  induction xs generalizing x ys with
  | nil => cases h
  | cons z zs ih =>
    by_cases hz : p z = true
    · rw [List.filter_cons_of_pos hz, StableSort.sort_cons] at h
      by_cases hleast : ∀ y ∈ zs.filter p, key z ≤ key y
      · rw [StableSort.insert_of_forall_le (by simpa using hleast)] at h
        cases h
        refine ⟨[], zs, rfl, hz, by simp, ?_⟩
        intro y hy hp
        exact hleast y (List.mem_filter.mpr ⟨hy, hp⟩)
      · -- What is sorted behind `z` begins with a smaller entry, which comes first.
        cases hsort : StableSort.sort key (zs.filter p) with
        | nil => simp [StableSort.sort_eq_nil hsort] at hleast
        | cons w ws =>
          have hnot : ¬ key z ≤ key w := by
            intro hle
            exact hleast fun y hy => Std.le_trans hle (StableSort.key_le_of_sort hsort hy)
          rw [hsort, StableSort.insert, if_neg hnot] at h
          cases h
          obtain ⟨ahead, behind, rfl, hforemost⟩ := ih hsort
          exact ⟨z :: ahead, behind, rfl, hforemost.cons fun _ => Std.not_le.mp hnot⟩
    · rw [List.filter_cons_of_neg hz] at h
      obtain ⟨ahead, behind, rfl, hforemost⟩ := ih h
      exact ⟨z :: ahead, behind, rfl, hforemost.cons fun hp => absurd hp hz⟩

theorem find?_sort (key : α → κ) (p : α → Bool) (xs : List α) :
    (StableSort.sort key xs).find? p = (xs.filter p).foldl (lesser key) none := by
  rw [← List.head?_filter, StableSort.filter_sort]
  cases hsort : StableSort.sort key (xs.filter p) with
  | nil => rw [StableSort.sort_eq_nil hsort, List.head?_nil, List.foldl_nil]
  | cons x ys =>
    obtain ⟨ahead, behind, rfl, hforemost⟩ := exists_foremost_of_sort hsort
    rw [hforemost.foldl_lesser, List.head?_cons]

/-- What the fold finds. -/
theorem foldl_lesser_eq_some_iff : (xs.filter p).foldl (lesser key) none = some x ↔
    ∃ ahead behind, xs = ahead ++ x :: behind ∧ Foremost p key ahead x behind := by
  constructor
  · intro h
    rw [← find?_sort, ← List.head?_filter, StableSort.filter_sort] at h
    obtain ⟨ys, hsort⟩ := List.head?_eq_some_iff.mp h
    exact exists_foremost_of_sort hsort
  · rintro ⟨ahead, behind, rfl, hforemost⟩
    exact hforemost.foldl_lesser

end VolumePricing
