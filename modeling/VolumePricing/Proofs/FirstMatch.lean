import Mathlib
import VolumePricing.FirstMatch

/-!
# What changing or erasing the first match leaves

Of the rows that satisfy some other condition only the first match can come or
go. Counts and sums are stated with the row that is found, so that they can be
used without a word about the rest of the list.
-/

namespace VolumePricing

variable {α : Type} {p : α → Bool} {f : α → α}

theorem mem_modifyFirst {xs : List α} {y : α} (h : y ∈ modifyFirst p f xs) :
    y ∈ xs ∨ ∃ x ∈ xs, p x = true ∧ y = f x := by
  fun_induction modifyFirst p f xs with
  | case1 => cases h
  | case2 x xs hx =>
    rcases List.mem_cons.mp h with rfl | h
    · exact Or.inr ⟨x, by simp, hx, rfl⟩
    · exact Or.inl (by simp [h])
  | case3 x xs hx ih =>
    rcases List.mem_cons.mp h with rfl | h
    · exact Or.inl (by simp)
    · rcases ih h with h | ⟨z, hz, hp, rfl⟩
      · exact Or.inl (by simp [h])
      · exact Or.inr ⟨z, by simp [hz], hp, rfl⟩

/-- Where no key stands twice, changing the first row of a key changes all of its rows. -/
theorem modifyFirst_eq_map {β : Type} [DecidableEq β] {key : α → β} (k : β) (f : α → α)
    {xs : List α} (h : (xs.map key).Nodup) :
    modifyFirst (key · == k) f xs = xs.map fun x => if key x = k then f x else x := by
  induction xs with
  | nil => rfl
  | cons x xs ih =>
    rw [List.map_cons, List.nodup_cons] at h
    by_cases hx : key x = k
    · have hrest : ∀ y ∈ xs, ¬ key y = k := by
        intro y hy hyk
        exact h.1 (hx.trans hyk.symm ▸ List.mem_map_of_mem hy)
      have hsame : (xs.map fun y => if key y = k then f y else y) = xs := by
        conv_rhs => rw [← List.map_id xs]
        exact List.map_congr_left fun y hy => if_neg (hrest y hy)
      simp [modifyFirst, hx, hsame]
    · simp [modifyFirst, hx, ih h.2]

/-- Where no key stands twice, every row is the first one of its key. -/
theorem find?_key_eq_of_mem {β : Type} [DecidableEq β] {key : α → β} {xs : List α} {x : α}
    (h : (xs.map key).Nodup) (hx : x ∈ xs) : xs.find? (key · = key x) = some x := by
  cases hfind : xs.find? (key · = key x) with
  | none =>
    have hno := List.find?_eq_none.mp hfind x hx
    exact absurd (decide_eq_true rfl) hno
  | some y =>
    have hkey : key y = key x := of_decide_eq_true (List.find?_some (p := (key · = key x)) hfind)
    rw [List.inj_on_of_nodup_map h (List.mem_of_find?_eq_some hfind) hx hkey]

/-- A change of rows that are left out anyway is not seen. -/
theorem filter_modifyFirst {q : α → Bool} (h : ∀ x, p x = true → q x = false ∧ q (f x) = false)
    (xs : List α) : (modifyFirst p f xs).filter q = xs.filter q := by
  fun_induction modifyFirst p f xs with
  | case1 => rfl
  | case2 x xs hx => simp [h x hx]
  | case3 x xs hx ih => simp [List.filter_cons, ih]

/-- A match behind rows that do not match is the first one. -/
theorem modifyFirst_append_cons {front back : List α} {x : α} (hx : p x = true)
    (hfront : ∀ y ∈ front, p y = false) :
    modifyFirst p f (front ++ x :: back) = front ++ f x :: back := by
  induction front with
  | nil => simp [modifyFirst, hx]
  | cons y ys ih =>
    have hy : p y = false := hfront y List.mem_cons_self
    have hys : ∀ z ∈ ys, p z = false := fun z hz => hfront z (List.mem_cons_of_mem y hz)
    simp [modifyFirst, hy, ih hys]

/-- The first match stands between rows that stay as they are. -/
theorem exists_modifyFirst_eq (f : α → α) {xs : List α} {x : α} (h : xs.find? p = some x) :
    ∃ front back, xs = front ++ x :: back ∧ modifyFirst p f xs = front ++ f x :: back := by
  obtain ⟨hx, front, back, rfl, hfront⟩ := List.find?_eq_some_iff_append.mp h
  exact ⟨front, back, rfl, modifyFirst_append_cons hx (by simpa using hfront)⟩

/-- Changing the first match moves a count from the old row to the new one. -/
theorem countP_modifyFirst (q : α → Bool) {xs : List α} {x : α} (h : xs.find? p = some x) :
    (modifyFirst p f xs).countP q + (if q x then 1 else 0) =
      xs.countP q + (if q (f x) then 1 else 0) := by
  fun_induction modifyFirst p f xs with
  | case1 => cases h
  | case2 y ys hy =>
    rw [List.find?_cons_of_pos hy] at h
    cases h
    simp only [List.countP_cons]
    omega
  | case3 y ys hy ih =>
    rw [List.find?_cons_of_neg hy] at h
    simp only [List.countP_cons]
    have := ih h
    omega

/-- Changing the first match moves a sum by the difference of the two rows. -/
theorem sum_modifyFirst (g : α → ℤ) {xs : List α} {x : α} (h : xs.find? p = some x) :
    ((modifyFirst p f xs).map g).sum + g x = (xs.map g).sum + g (f x) := by
  fun_induction modifyFirst p f xs with
  | case1 => cases h
  | case2 y ys hy =>
    rw [List.find?_cons_of_pos hy] at h
    cases h
    simp only [List.map_cons, List.sum_cons]
    omega
  | case3 y ys hy ih =>
    rw [List.find?_cons_of_neg hy] at h
    simp only [List.map_cons, List.sum_cons]
    have := ih h
    omega

/-- Two changes that leave alone what the other one looks for may be made in either order, if they
may where they meet in one row. -/
theorem modifyFirst_comm {q : α → Bool} {g : α → α} (hp : ∀ x, p (g x) = p x)
    (hq : ∀ x, q (f x) = q x) (hmeet : ∀ x, p x = true → q x = true → f (g x) = g (f x))
    (xs : List α) : modifyFirst p f (modifyFirst q g xs) = modifyFirst q g (modifyFirst p f xs) := by
  induction xs with
  | nil => rfl
  | cons x xs ih =>
    cases hpx : p x <;> cases hqx : q x
    · simp [modifyFirst, hpx, hqx, ih]
    · simp [modifyFirst, hpx, hqx, hp]
    · simp [modifyFirst, hpx, hqx, hq]
    · simp [modifyFirst, hpx, hqx, hp, hq, hmeet]

/-- A change made again is the change made twice, in the row that matches first. -/
theorem modifyFirst_modifyFirst (h : ∀ x, p (f x) = p x) (xs : List α) :
    modifyFirst p f (modifyFirst p f xs) = modifyFirst p (f ∘ f) xs := by
  induction xs with
  | nil => rfl
  | cons x xs ih => cases hx : p x <;> simp [modifyFirst, hx, h, ih]

/-- The first match is found again when the change lets it match. -/
theorem find?_modifyFirst_of_imp (h : ∀ x, p x = true → p (f x) = true) (xs : List α) :
    (modifyFirst p f xs).find? p = (xs.find? p).map f := by
  fun_induction modifyFirst p f xs with
  | case1 => rfl
  | case2 x xs hx => simp [hx, h x hx]
  | case3 x xs hx ih => simp [hx, ih]

theorem sum_eraseP (g : α → ℤ) {xs : List α} {x : α} (h : xs.find? p = some x) :
    ((xs.eraseP p).map g).sum + g x = (xs.map g).sum := by
  induction xs with
  | nil => cases h
  | cons y ys ih =>
    by_cases hy : p y = true
    · rw [List.find?_cons_of_pos hy] at h
      cases h
      rw [List.eraseP_cons_of_pos hy, List.map_cons, List.sum_cons]
      omega
    · rw [List.find?_cons_of_neg hy] at h
      rw [List.eraseP_cons_of_neg hy, List.map_cons, List.sum_cons, List.map_cons, List.sum_cons]
      have := ih h
      omega

/-- Where no key stands twice, erasing the first row of a key erases all of its rows. -/
theorem eraseP_eq_filter {β : Type} [DecidableEq β] {key : α → β} (k : β) {xs : List α}
    (h : (xs.map key).Nodup) : xs.eraseP (key · == k) = xs.filter (key · ≠ k) := by
  induction xs with
  | nil => rfl
  | cons x xs ih =>
    rw [List.map_cons, List.nodup_cons] at h
    by_cases hx : key x = k
    · have hrest : xs.filter (key · ≠ k) = xs := by
        refine List.filter_eq_self.mpr fun y hy => ?_
        have hne : key y ≠ k := by
          intro hyk
          exact h.1 (hx.trans hyk.symm ▸ List.mem_map_of_mem hy)
        simpa using hne
      rw [List.eraseP_cons_of_pos (by simpa using hx), List.filter_cons_of_neg (by simpa using hx),
        hrest]
    · rw [List.eraseP_cons_of_neg (by simpa using hx), List.filter_cons_of_pos (by simpa using hx),
        ih h.2]

/-- Where no key stands twice, the rows of a key do not depend on the order of the list. -/
theorem filter_key_eq_of_perm {β : Type} [DecidableEq β] {key : α → β} (k : β) {xs ys : List α}
    (hperm : xs.Perm ys) (h : (xs.map key).Nodup) :
    xs.filter (key · = k) = ys.filter (key · = k) := by
  have hrows := hperm.filter (key · = k)
  cases hclass : xs.filter (key · = k) with
  | nil =>
    rw [hclass] at hrows
    exact hrows.nil_eq
  | cons x rest =>
    rw [hclass] at hrows
    have hkeys : ((x :: rest).map key).Nodup := hclass ▸ h.sublist (List.filter_sublist.map key)
    have hkey : ∀ y ∈ x :: rest, key y = k := by
      intro y hy
      rw [← hclass] at hy
      exact of_decide_eq_true (List.mem_filter.mp hy).2
    cases rest with
    | nil => exact List.singleton_perm.mp hrows
    | cons y rest => simp [hkey x, hkey y] at hkeys

theorem countP_eraseP (q : α → Bool) {xs : List α} {x : α} (h : xs.find? p = some x) :
    (xs.eraseP p).countP q + (if q x then 1 else 0) = xs.countP q := by
  induction xs with
  | nil => cases h
  | cons y ys ih =>
    by_cases hy : p y = true
    · rw [List.find?_cons_of_pos hy] at h
      cases h
      rw [List.eraseP_cons_of_pos hy, List.countP_cons]
    · rw [List.find?_cons_of_neg hy] at h
      rw [List.eraseP_cons_of_neg hy, List.countP_cons, List.countP_cons]
      have := ih h
      omega

/-! ### Rows looked up by a key -/

section Lookup

variable {β : Type} [DecidableEq α] {k : α} {v : β}

theorem mem_of_lookup_eq_some {l : List (α × β)} (h : l.lookup k = some v) : (k, v) ∈ l := by
  obtain ⟨front, back, rfl, -⟩ := List.lookup_eq_some_iff.mp h
  exact List.mem_append_right front List.mem_cons_self

/-- Dropping rows by their keys does not change what stands under a key that is kept. -/
theorem lookup_filter {p : α → Bool} (hk : p k = true) (l : List (α × β)) :
    (l.filter fun m => p m.1).lookup k = l.lookup k := by
  induction l with
  | nil => rfl
  | cons m l ih =>
    rw [List.filter_cons, List.lookup_cons]
    cases hm : p m.1 with
    | true => rw [if_pos rfl, List.lookup_cons, ih]
    | false =>
      have hne : (k == m.1) = false := by
        rw [beq_eq_false_iff_ne]
        rintro rfl
        rw [hk] at hm
        cases hm
      rw [if_neg Bool.false_ne_true, hne, ih]

end Lookup

end VolumePricing
