/-!
# Stable sorting by a key

Rows are listed by a numeric key, and rows of equal key keep the order in which
they came. Insertion does this by structural recursion, so that the order of
every concrete list can be computed by unfolding.
-/

namespace VolumePricing.StableSort

variable {α κ : Type} [LE κ] [DecidableLE κ] (key : α → κ)

/-- Places `x` before the first entry whose key is not smaller. -/
def insert (x : α) : List α → List α
  | [] => [x]
  | y :: ys => if key x ≤ key y then x :: y :: ys else y :: insert x ys

def sort : List α → List α
  | [] => []
  | x :: xs => insert key x (sort xs)

@[simp] theorem sort_nil : sort key [] = [] := rfl

@[simp] theorem sort_cons (x : α) (xs : List α) :
    sort key (x :: xs) = insert key x (sort key xs) := rfl

theorem insert_perm (x : α) (xs : List α) : (insert key x xs).Perm (x :: xs) := by
  fun_induction insert key x xs with
  | case1 => exact .refl _
  | case2 => exact .refl _
  | case3 y ys _ ih => exact (ih.cons y).trans (.swap x y ys)

theorem sort_perm (xs : List α) : (sort key xs).Perm xs := by
  induction xs with
  | nil => exact .refl _
  | cons x xs ih => exact (insert_perm key x _).trans (ih.cons x)

@[simp] theorem mem_sort {x : α} {xs : List α} : x ∈ sort key xs ↔ x ∈ xs :=
  (sort_perm key xs).mem_iff

@[simp] theorem length_sort (xs : List α) : (sort key xs).length = xs.length :=
  (sort_perm key xs).length_eq

end VolumePricing.StableSort
