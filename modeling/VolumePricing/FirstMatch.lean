/-!
# The first match of a list

A table without an index is searched from the front, and a change concerns the
first row that matches. What is said of the first row and what is said of the
rest are kept apart by two lemmas on lookups.
-/

namespace VolumePricing

variable {α : Type}

/-- Changes the first entry that satisfies `p`. -/
def modifyFirst (p : α → Bool) (f : α → α) : List α → List α
  | [] => []
  | x :: xs => if p x then f x :: xs else x :: modifyFirst p f xs

@[simp] theorem length_modifyFirst (p : α → Bool) (f : α → α) (xs : List α) :
    (modifyFirst p f xs).length = xs.length := by
  fun_induction modifyFirst p f xs <;> simp_all

theorem map_modifyFirst {β : Type} {g : α → β} {p : α → Bool} {f : α → α}
    (h : ∀ x, g (f x) = g x) (xs : List α) : (modifyFirst p f xs).map g = xs.map g := by
  fun_induction modifyFirst p f xs <;> simp_all

theorem map_modifyFirst_comm {g : α → α} {p : α → Bool} {f : α → α} (hp : ∀ x, p (g x) = p x)
    (hf : ∀ x, g (f x) = f (g x)) (xs : List α) :
    (modifyFirst p f xs).map g = modifyFirst p f (xs.map g) := by
  fun_induction modifyFirst p f xs <;> simp_all [modifyFirst]

theorem find?_modifyFirst {p : α → Bool} {f : α → α} (h : ∀ x, p (f x) = p x) (xs : List α) :
    (modifyFirst p f xs).find? p = (xs.find? p).map f := by
  fun_induction modifyFirst p f xs <;> simp_all

theorem find?_modifyFirst_of_disjoint {p q : α → Bool} {f : α → α}
    (h : ∀ x, p x = true → q x = false ∧ q (f x) = false) (xs : List α) :
    (modifyFirst p f xs).find? q = xs.find? q := by
  fun_induction modifyFirst p f xs with
  | case1 => rfl
  | case2 x xs hx => simp [h x hx]
  | case3 x xs hx ih => simp [List.find?_cons, ih]

end VolumePricing
