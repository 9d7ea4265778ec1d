import VolumePricing.Proofs.Cart.Table

/-!
# Units in a cart

The units of some lines are the sum of their quantities as integers. Adding to
a cart or setting one of its quantities moves the units by what was asked for,
and lines that hold something go on holding something.
-/

namespace VolumePricing

open Checked

variable {items items' : List CartLine} {product : Product} {productId lastItemId id : UInt32}
  {quantity : Int64}

/-- The units of some lines. -/
def unitsOf (items : List CartLine) : ℤ := total (items.map (·.quantity))

/-- The units of a product's line, zero where there is none. -/
def unitsOfProduct (items : List CartLine) (productId : UInt32) : ℤ :=
  ((items.find? (·.productId == productId)).map (·.quantity.toInt)).getD 0

/-- Every line holds something. -/
def AllFilled (items : List CartLine) : Prop := ∀ line ∈ items, 0 < line.quantity.toInt

theorem unitsOf_eq_sum (items : List CartLine) :
    unitsOf items = (items.map (·.quantity.toInt)).sum := by
  simp [unitsOf, total, Function.comp_def]

theorem unitsOf_cons (line : CartLine) (rest : List CartLine) :
    unitsOf (line :: rest) = line.quantity.toInt + unitsOf rest := by
  rw [unitsOf, List.map_cons, total_cons, unitsOf]

theorem unitsOf_perm (h : items'.Perm items) : unitsOf items' = unitsOf items := by
  rw [unitsOf_eq_sum, unitsOf_eq_sum]
  exact (h.map _).sum_eq

theorem AllFilled.perm (h : AllFilled items) (hperm : items'.Perm items) : AllFilled items' :=
  fun line hline => h line (hperm.mem_iff.mp hline)

theorem AllFilled.filter_eq (h : AllFilled items) : items.filter (0 < ·.quantity) = items := by
  refine List.filter_eq_self.mpr fun line hline => ?_
  simpa [Int64.lt_iff_toInt_lt] using h line hline

theorem AllFilled.unitsOf_nonneg (h : AllFilled items) : 0 ≤ unitsOf items := by
  refine total_nonneg fun q hq => ?_
  obtain ⟨line, hline, rfl⟩ := List.mem_map.mp hq
  exact (h line hline).le

theorem AllFilled.unitsOf_eq_zero_iff (h : AllFilled items) : unitsOf items = 0 ↔ items = [] := by
  constructor
  · intro hzero
    cases items with
    | nil => rfl
    | cons line rest =>
      have hline := h line List.mem_cons_self
      have hrest : AllFilled rest := fun l hl => h l (List.mem_cons_of_mem _ hl)
      have hnonneg := hrest.unitsOf_nonneg
      rw [unitsOf_cons] at hzero
      omega
  · intro hnil
    rw [hnil]
    rfl

theorem AllFilled.unitsOfProduct_nonneg (h : AllFilled items) :
    0 ≤ unitsOfProduct items productId := by
  unfold unitsOfProduct
  cases hfind : items.find? (·.productId == productId) with
  | none => rfl
  | some line => exact (h line (List.mem_of_find?_eq_some hfind)).le

/-- One line holds no more than the whole. -/
theorem AllFilled.unitsOfProduct_le (h : AllFilled items) :
    unitsOfProduct items productId ≤ unitsOf items := by
  unfold unitsOfProduct
  cases hfind : items.find? (·.productId == productId) with
  | none => exact h.unitsOf_nonneg
  | some line =>
    have hrest := sum_eraseP (·.quantity.toInt) hfind
    have hnonneg : 0 ≤ ((items.eraseP (·.productId == productId)).map (·.quantity.toInt)).sum :=
      List.sum_nonneg (by
        intro q hq
        obtain ⟨l, hl, rfl⟩ := List.mem_map.mp hq
        exact (h l (List.eraseP_subset hl)).le)
    rw [unitsOf_eq_sum]
    simp only [Option.map_some, Option.getD_some]
    omega

namespace CartTable

/-- Adding to a cart adds to its units. -/
theorem addTo_eq_ok (hitems : AllFilled items) (hq : 0 < quantity.toInt)
    (h : addTo lastItemId items product quantity = .ok (items', id)) :
    AllFilled items' ∧ unitsOf items' = unitsOf items + quantity.toInt := by
  rcases addTo_cases h with ⟨line, sum, hfind, hsum, -, rfl⟩ | ⟨-, -, rfl⟩
  · have hsumval := addInt64_eq_ok.mp hsum
    have hline := hitems line (List.mem_of_find?_eq_some hfind)
    constructor
    · intro l hl
      rcases mem_modifyFirst hl with hl | ⟨old, -, -, rfl⟩
      · exact hitems l hl
      · simp only
        omega
    · have hmoved := sum_modifyFirst (f := fun l : CartLine => { l with quantity := sum })
        (·.quantity.toInt) hfind
      rw [unitsOf_eq_sum, unitsOf_eq_sum]
      simp only at hmoved
      omega
  · constructor
    · intro l hl
      rcases List.mem_append.mp hl with hl | hl
      · exact hitems l hl
      · rw [List.mem_singleton.mp hl]
        exact hq
    · simp [unitsOf, newLine]

theorem overflows_addTo (hitems : AllFilled items) (hq : 0 < quantity.toInt) :
    Overflows (addTo lastItemId items product quantity) ↔
      if (items.find? (·.productId == product.id)).isSome then
        Int64.maxValue.toInt < unitsOfProduct items product.id + quantity.toInt
      else lastItemId.toNat + 1 = UInt32.size := by
  unfold addTo unitsOfProduct
  cases hfind : items.find? (·.productId == product.id) with
  | some line =>
    have hline := hitems line (List.mem_of_find?_eq_some hfind)
    simpa using overflows_addInt64 hline.le hq.le
  | none => simp [overflows_addUInt32_one]

/-- Setting a quantity replaces the units of the line; zero or less leaves none. -/
theorem setIn_eq (quantity : Int64) (hitems : AllFilled items)
    (hany : items.any (·.productId == productId) = true) :
    AllFilled (setIn items productId quantity) ∧
      unitsOf (setIn items productId quantity) =
        unitsOf items - unitsOfProduct items productId + max 0 quantity.toInt := by
  obtain ⟨line, hfind⟩ : ∃ line, items.find? (·.productId == productId) = some line := by
    rw [← Option.isSome_iff_exists, List.find?_isSome]
    simpa using hany
  unfold setIn unitsOfProduct
  rw [hfind, unitsOf_eq_sum, unitsOf_eq_sum]
  split
  · rename_i hzero
    rw [Int64.le_iff_toInt_le, Int64.toInt_zero] at hzero
    refine ⟨fun l hl => hitems l (List.eraseP_subset hl), ?_⟩
    have hrest := sum_eraseP (·.quantity.toInt) hfind
    simp only [Option.map_some, Option.getD_some]
    omega
  · rename_i hpos
    rw [Int64.le_iff_toInt_le, Int64.toInt_zero, not_le] at hpos
    constructor
    · intro l hl
      rcases mem_modifyFirst hl with hl | ⟨old, -, -, rfl⟩
      · exact hitems l hl
      · exact hpos
    · have hmoved := sum_modifyFirst (f := fun l : CartLine => { l with quantity })
        (·.quantity.toInt) hfind
      simp only [Option.map_some, Option.getD_some] at hmoved ⊢
      omega

end CartTable

end VolumePricing
