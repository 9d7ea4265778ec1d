import Mathlib
import VolumePricing.StableSort

/-!
# What a stable sort keeps

Of two entries of a sorted list the first has the smaller key, or the keys are
equal and the entries stood in this order before. So a list whose entries stand
in order of a second key is sorted by both keys at once. Entries may be left out before
the list is sorted or after, and a list that is put in another order is sorted
to the same as long as entries of one key keep theirs.
-/

namespace VolumePricing.StableSort

variable {α κ : Type} [LE κ] [DecidableLE κ] {key : α → κ} {r : α → α → Prop} {x y : α}
  {xs ys : List α}

/-- The first entry goes before the second by its key or, where the keys are equal, by `r`. -/
def Before (key : α → κ) (r : α → α → Prop) (x y : α) : Prop :=
  key x ≤ key y ∧ (key y ≤ key x → r x y)

theorem insert_of_forall_le (h : ∀ y ∈ xs, key x ≤ key y) : insert key x xs = x :: xs := by
  cases xs with
  | nil => rfl
  | cons y ys => exact if_pos (h y List.mem_cons_self)

theorem sort_of_pairwise (h : xs.Pairwise fun x y => key x ≤ key y) : sort key xs = xs := by
  induction xs with
  | nil => rfl
  | cons x xs ih =>
    obtain ⟨hx, hxs⟩ := List.pairwise_cons.mp h
    rw [sort_cons, ih hxs]
    exact insert_of_forall_le hx

theorem sort_eq_nil (h : sort key xs = []) : xs = [] := by
  rw [← List.length_eq_zero_iff, ← length_sort key, h, List.length_nil]

section Map

variable {f : α → α} (hf : ∀ x, key (f x) = key x)
include hf

theorem insert_map (x : α) (xs : List α) :
    insert key (f x) (xs.map f) = (insert key x xs).map f := by
  induction xs with
  | nil => rfl
  | cons y ys ih =>
    simp only [List.map_cons, insert, hf, ih]
    split <;> rfl

/-- A change that leaves the keys as they are can be made before the list is sorted or after. -/
theorem sort_map (xs : List α) : sort key (xs.map f) = (sort key xs).map f := by
  induction xs with
  | nil => rfl
  | cons x xs ih => rw [List.map_cons, sort_cons, sort_cons, ih, insert_map hf]

end Map

theorem insert_concat (h : key y ≤ key x) (xs : List α) :
    insert key y (xs ++ [x]) = insert key y xs ++ [x] := by
  induction xs with
  | nil => exact if_pos h
  | cons z zs ih =>
    simp only [List.cons_append, insert, ih]
    split <;> rfl

/-- An entry at the end of a list whose key is not below any other stays there. -/
theorem sort_concat (h : ∀ y ∈ xs, key y ≤ key x) : sort key (xs ++ [x]) = sort key xs ++ [x] := by
  induction xs with
  | nil => rfl
  | cons y ys ih =>
    have hys : ∀ z ∈ ys, key z ≤ key x := fun z hz => h z (List.mem_cons_of_mem y hz)
    rw [List.cons_append, sort_cons, sort_cons, ih hys]
    exact insert_concat (h y List.mem_cons_self) _

theorem filter_insert_of_neg {p : α → Bool} (hx : ¬ p x = true) :
    (insert key x xs).filter p = xs.filter p := by
  fun_induction insert key x xs with
  | case1 => simp [hx]
  | case2 y ys => exact List.filter_cons_of_neg hx
  | case3 y ys _ ih => simp [List.filter_cons, ih]

variable [Std.IsLinearPreorder κ]

theorem pairwise_insert (hx : ∀ y ∈ xs, r x y) (hxs : xs.Pairwise (Before key r)) :
    (insert key x xs).Pairwise (Before key r) := by
  fun_induction insert key x xs with
  | case1 => exact List.pairwise_singleton _ _
  | case2 y ys hle =>
    apply List.pairwise_cons.mpr
    constructor
    · intro z hz
      refine ⟨?_, fun _ => hx z hz⟩
      rcases List.mem_cons.mp hz with rfl | hz
      · exact hle
      · exact Std.le_trans hle (List.rel_of_pairwise_cons hxs hz).1
    · exact hxs
  | case3 y ys hnot ih =>
    apply List.pairwise_cons.mpr
    constructor
    · intro z hz
      rcases List.mem_cons.mp ((insert_perm key x ys).mem_iff.mp hz) with rfl | hz
      · exact ⟨Std.le_of_not_ge hnot, fun hle => absurd hle hnot⟩
      · exact List.rel_of_pairwise_cons hxs hz
    · apply ih
      · intro z hz
        exact hx z (List.mem_cons_of_mem y hz)
      · exact hxs.of_cons

theorem pairwise_sort (h : xs.Pairwise r) : (sort key xs).Pairwise (Before key r) := by
  induction xs with
  | nil => exact List.Pairwise.nil
  | cons x xs ih =>
    obtain ⟨hx, hxs⟩ := List.pairwise_cons.mp h
    rw [sort_cons]
    apply pairwise_insert
    · intro y hy
      exact hx y ((mem_sort key).mp hy)
    · exact ih hxs

theorem pairwise_key_sort (key : α → κ) (xs : List α) :
    (sort key xs).Pairwise fun x y => key x ≤ key y := by
  have hany : xs.Pairwise fun _ _ => True := List.pairwise_of_forall fun _ _ => trivial
  exact (pairwise_sort hany).imp fun h => h.1

theorem key_le_of_sort (h : sort key xs = x :: ys) (hy : y ∈ xs) : key x ≤ key y := by
  have hsorted := h ▸ pairwise_key_sort key xs
  rw [← mem_sort key, h] at hy
  rcases List.mem_cons.mp hy with rfl | hy
  · exact Std.le_refl _
  · exact List.rel_of_pairwise_cons hsorted hy

theorem filter_insert_of_pos {p : α → Bool} (hx : p x = true)
    (hxs : xs.Pairwise fun x y => key x ≤ key y) :
    (insert key x xs).filter p = insert key x (xs.filter p) := by
  fun_induction insert key x xs with
  | case1 => simp [hx, insert]
  | case2 y ys hle =>
    have hall : ∀ z ∈ (y :: ys).filter p, key x ≤ key z := by
      intro z hz
      rcases List.mem_cons.mp (List.mem_of_mem_filter hz) with rfl | hz
      · exact hle
      · exact Std.le_trans hle (List.rel_of_pairwise_cons hxs hz)
    rw [List.filter_cons_of_pos hx, insert_of_forall_le hall]
  | case3 y ys hnot ih =>
    by_cases hy : p y = true
    · rw [List.filter_cons_of_pos hy, List.filter_cons_of_pos hy, ih hxs.of_cons]
      exact (if_neg hnot).symm
    · rw [List.filter_cons_of_neg hy, List.filter_cons_of_neg hy, ih hxs.of_cons]

/-- Entries are left out before the list is sorted as well as after. -/
theorem filter_sort (key : α → κ) (p : α → Bool) (xs : List α) :
    (sort key xs).filter p = sort key (xs.filter p) := by
  induction xs with
  | nil => rfl
  | cons x xs ih =>
    rw [sort_cons]
    by_cases hx : p x = true
    · rw [filter_insert_of_pos hx (pairwise_key_sort key xs), ih, List.filter_cons_of_pos hx,
        sort_cons]
    · rw [filter_insert_of_neg hx, ih, List.filter_cons_of_neg hx]

section Classes

variable {κ : Type} [DecidableEq κ] {key : α → κ}

theorem mem_of_filter_eq (h : ∀ k, xs.filter (key · = k) = ys.filter (key · = k)) (hx : x ∈ xs) :
    x ∈ ys := by
  have hclass : x ∈ xs.filter (key · = key x) := List.mem_filter.mpr ⟨hx, by simp⟩
  rw [h] at hclass
  exact List.mem_of_mem_filter hclass

variable [LE κ] [Std.IsLinearOrder κ]

/-- A sorted list is known by its entries of each key. -/
theorem eq_of_pairwise_of_filter_eq (hxs : xs.Pairwise fun x y => key x ≤ key y)
    (hys : ys.Pairwise fun x y => key x ≤ key y)
    (h : ∀ k, xs.filter (key · = k) = ys.filter (key · = k)) : xs = ys := by
  induction xs generalizing ys with
  | nil =>
    symm
    apply List.eq_nil_iff_forall_not_mem.mpr
    intro y hy
    exact absurd (mem_of_filter_eq (fun k => (h k).symm) hy) List.not_mem_nil
  | cons x xs ih =>
    cases ys with
    | nil => exact absurd (mem_of_filter_eq h List.mem_cons_self) List.not_mem_nil
    | cons y ys =>
      have hxy : key x ≤ key y := by
        have hy := mem_of_filter_eq (fun k => (h k).symm) (List.mem_cons_self (a := y))
        rcases List.mem_cons.mp hy with heq | hy
        · exact heq ▸ Std.le_refl _
        · exact List.rel_of_pairwise_cons hxs hy
      have hyx : key y ≤ key x := by
        rcases List.mem_cons.mp (mem_of_filter_eq h List.mem_cons_self) with heq | hx
        · exact heq ▸ Std.le_refl _
        · exact List.rel_of_pairwise_cons hys hx
      have hkey : key x = key y := Std.le_antisymm hxy hyx
      -- Both stand at the head of one class.
      obtain ⟨rfl, -⟩ : x = y ∧ xs.filter (key · = key y) = ys.filter (key · = key y) := by
        simpa [hkey] using h (key y)
      congr 1
      apply ih hxs.of_cons hys.of_cons
      intro k
      have hk := h k
      by_cases hx : key x = k <;> simpa [hx] using hk

theorem sort_congr [DecidableLE κ] (h : ∀ k, xs.filter (key · = k) = ys.filter (key · = k)) :
    sort key xs = sort key ys := by
  apply eq_of_pairwise_of_filter_eq (pairwise_key_sort key xs) (pairwise_key_sort key ys)
  intro k
  rw [filter_sort, filter_sort, h k]

end Classes

end VolumePricing.StableSort
