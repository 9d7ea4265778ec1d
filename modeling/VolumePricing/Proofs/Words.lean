import Mathlib
import VolumePricing.Checked

/-!
# Words and their sums

A checked sum of words is the sum of their integers, or there is none. A total
of quantities that are not negative only grows from left to right, so it fits
as soon as the whole fits: no partial sum can leave the word earlier.
-/

namespace VolumePricing

instance instLawfulOrderMaxWord : Std.LawfulOrderMax UInt32 where
  max_eq_or a b := by
    change (if a ≤ b then b else a) = a ∨ (if a ≤ b then b else a) = b
    split
    · exact Or.inr rfl
    · exact Or.inl rfl
  max_le_iff a b c := by
    change (if a ≤ b then b else a) ≤ c ↔ a ≤ c ∧ b ≤ c
    simp only [UInt32.le_iff_toNat_le]
    split <;> omega

instance instLawfulOrderMaxInt32 : Std.LawfulOrderMax Int32 where
  max_eq_or a b := by
    change (if a ≤ b then b else a) = a ∨ (if a ≤ b then b else a) = b
    split
    · exact Or.inr rfl
    · exact Or.inl rfl
  max_le_iff a b c := by
    change (if a ≤ b then b else a) ≤ c ↔ a ≤ c ∧ b ≤ c
    simp only [Int32.le_iff_toInt_le]
    split <;> omega

theorem Int64.not_nonpos_iff {q : Int64} : ¬ q ≤ 0 ↔ 0 < q.toInt := by
  simp [Int64.le_iff_toInt_le]

namespace Checked

/-- The computation leaves the range of its words. -/
def Overflows {α : Type} (x : Checked α) : Prop := ∃ o, x = .error o

@[simp] theorem overflows_error {α : Type} (o : Overflow) :
    Overflows (.error o : Checked α) := ⟨o, rfl⟩

@[simp] theorem not_overflows_ok {α : Type} (a : α) : ¬ Overflows (.ok a : Checked α) := by
  rintro ⟨o, ho⟩
  cases ho

@[simp] theorem not_overflows_pure {α : Type} (a : α) : ¬ Overflows (pure a : Checked α) :=
  not_overflows_ok a

theorem overflows_iff {α : Type} (x : Checked α) : Overflows x ↔ ∀ a, x ≠ .ok a := by
  cases x <;> simp

@[simp] theorem overflows_map {α β : Type} (f : α → β) (x : Checked α) :
    Overflows (x.map f) ↔ Overflows x := by
  cases x <;> simp [Except.map]

@[simp] theorem overflows_fmap {α β : Type} (f : α → β) (x : Checked α) :
    Overflows (f <$> x) ↔ Overflows x := overflows_map f x

theorem overflows_bind {α β : Type} (x : Checked α) (f : α → Checked β) :
    Overflows (x >>= f) ↔ Overflows x ∨ ∃ a, x = .ok a ∧ Overflows (f a) := by
  cases x <;> simp [bind, Except.bind]

theorem addUInt32_eq_ok {a b c : UInt32} :
    addUInt32 a b = .ok c ↔ c.toNat = a.toNat + b.toNat := by
  unfold addUInt32
  split
  · rename_i h
    constructor
    · intro hc
      cases hc
      exact h
    · intro hc
      rw [UInt32.toNat_inj.mp (hc.trans h.symm)]
  · rename_i h
    constructor
    · intro hc
      cases hc
    · intro hc
      refine absurd ?_ h
      rw [UInt32.toNat_add, ← hc]
      exact Nat.mod_eq_of_lt c.toNat_lt

/-- A number that counts up is used up when it is the last of its word. -/
theorem overflows_addUInt32_one (a : UInt32) :
    Overflows (addUInt32 a 1) ↔ a.toNat + 1 = UInt32.size := by
  rw [overflows_iff]
  have ha : a.toNat < UInt32.size := a.toNat_lt
  constructor
  · intro h
    by_contra hne
    refine h (UInt32.ofNat (a.toNat + 1)) (addUInt32_eq_ok.mpr ?_)
    exact UInt32.toNat_ofNat_of_lt' (by omega)
  · intro h c hc
    have hsum := addUInt32_eq_ok.mp hc
    have hlt : c.toNat < UInt32.size := c.toNat_lt
    rw [UInt32.toNat_one] at hsum
    omega

/-- Only the highest word has no successor. -/
theorem addInt32_one_eq_error {a : Int32} {o : Overflow} :
    addInt32 a 1 = .error o ↔ a = Int32.maxValue ∧ o = .addition := by
  have hsucc : (a + 1).toInt = a.toInt + 1 ↔ a ≠ Int32.maxValue := by
    rw [Int32.toInt_add, Int32.toInt_one, ne_eq, ← Int32.toInt_inj, Int32.toInt_maxValue]
    have hlow := a.le_toInt
    have hhigh := a.toInt_lt
    rw [Int.bmod_def]
    omega
  unfold addInt32
  rw [Int32.toInt_one]
  split
  · rename_i h
    simp [hsucc.mp h]
  · rename_i h
    have ha : a = Int32.maxValue := not_not.mp (mt hsucc.mpr h)
    simp [ha, eq_comm]

theorem addInt32_eq_ok {a b c : Int32} : addInt32 a b = .ok c ↔ c.toInt = a.toInt + b.toInt := by
  unfold addInt32
  split
  · rename_i h
    rw [Except.ok.injEq, ← Int32.toInt_inj, h, eq_comm]
  · rename_i h
    constructor
    · intro hc
      cases hc
    · intro hc
      refine absurd ?_ h
      rw [Int32.toInt_add, ← hc, Int32.toInt_bmod]

theorem overflows_addInt32_one (a : Int32) : Overflows (addInt32 a 1) ↔ a = Int32.maxValue := by
  simp only [Overflows, addInt32_one_eq_error, exists_and_left, exists_eq, and_true]

theorem overflows_addInt64 {a b : Int64} (ha : 0 ≤ a.toInt) (hb : 0 ≤ b.toInt) :
    Overflows (addInt64 a b) ↔ Int64.maxValue.toInt < a.toInt + b.toInt := by
  rw [overflows_iff, Int64.toInt_maxValue]
  constructor
  · intro h
    by_contra hle
    refine h (Int64.ofInt (a.toInt + b.toInt)) (addInt64_eq_ok.mpr ?_)
    exact Int64.toInt_ofInt_of_le (by omega) (by omega)
  · intro h c hc
    have hsum := addInt64_eq_ok.mp hc
    have hlt := c.toInt_lt
    omega

theorem subInt64_eq_ok {a b c : Int64} : subInt64 a b = .ok c ↔ c.toInt = a.toInt - b.toInt := by
  unfold subInt64
  split
  · rename_i h
    rw [Except.ok.injEq, ← Int64.toInt_inj, h, eq_comm]
  · rename_i h
    constructor
    · intro hc
      cases hc
    · intro hc
      refine absurd ?_ h
      rw [Int64.toInt_sub, ← hc, Int64.toInt_bmod]

theorem overflows_subInt64 {a b : Int64} (hle : b.toInt ≤ a.toInt) :
    Overflows (subInt64 a b) ↔ Int64.maxValue.toInt < a.toInt - b.toInt := by
  rw [overflows_iff, Int64.toInt_maxValue]
  constructor
  · intro h
    by_contra hfits
    refine h (Int64.ofInt (a.toInt - b.toInt)) (subInt64_eq_ok.mpr ?_)
    exact Int64.toInt_ofInt_of_le (by omega) (by omega)
  · intro h c hc
    have hdiff := subInt64_eq_ok.mp hc
    have hlt := c.toInt_lt
    omega

/-- The integer of a list of quantities as a whole. -/
def total (xs : List Int64) : ℤ := (xs.map Int64.toInt).sum

@[simp] theorem total_nil : total [] = 0 := rfl

@[simp] theorem total_cons (x : Int64) (xs : List Int64) :
    total (x :: xs) = x.toInt + total xs := by
  simp [total]

@[simp] theorem total_append (xs ys : List Int64) : total (xs ++ ys) = total xs + total ys := by
  simp [total]

theorem total_nonneg {xs : List Int64} (h : ∀ x ∈ xs, 0 ≤ x.toInt) : 0 ≤ total xs :=
  List.sum_nonneg (by simpa using h)

/-- A checked sum that there is is the sum of the integers, also of negative ones. -/
theorem toInt_of_foldlM_addInt64 {xs : List Int64} {a t : Int64}
    (h : xs.foldlM addInt64 a = .ok t) : t.toInt = a.toInt + total xs := by
  induction xs generalizing a with
  | nil =>
    cases h
    simp
  | cons x xs ih =>
    rw [List.foldlM_cons] at h
    cases hb : addInt64 a x with
    | error o =>
      rw [hb] at h
      cases h
    | ok b =>
      rw [hb] at h
      have hsum := ih h
      rw [addInt64_eq_ok.mp hb] at hsum
      rw [total_cons]
      omega

theorem toInt_of_sumInt64 {xs : List Int64} {t : Int64} (h : sumInt64 xs = .ok t) :
    t.toInt = total xs := by
  have hsum := toInt_of_foldlM_addInt64 h
  simpa using hsum

/-- The sum goes on from any start that leaves room for the rest. -/
theorem foldlM_addInt64_eq_ok {xs : List Int64} (h : ∀ x ∈ xs, 0 ≤ x.toInt) (a t : Int64) :
    xs.foldlM addInt64 a = .ok t ↔ t.toInt = a.toInt + total xs := by
  refine ⟨toInt_of_foldlM_addInt64, fun ht => ?_⟩
  induction xs generalizing a with
  | nil =>
    rw [total_nil, add_zero] at ht
    rw [Int64.toInt_inj.mp ht]
    rfl
  | cons x xs ih =>
    have hx := h x (by simp)
    have hxs : ∀ y ∈ xs, 0 ≤ y.toInt := fun y hy => h y (by simp [hy])
    rw [total_cons] at ht
    -- The next partial sum lies between the start and the whole.
    have hrest := total_nonneg hxs
    have hlow := a.le_toInt
    have hhigh := t.toInt_lt
    have hb : addInt64 a x = .ok (Int64.ofInt (a.toInt + x.toInt)) :=
      addInt64_eq_ok.mpr (Int64.toInt_ofInt_of_le (by omega) (by omega))
    rw [List.foldlM_cons, hb]
    refine ih hxs _ ?_
    rw [addInt64_eq_ok.mp hb]
    omega

theorem sumInt64_eq_ok {xs : List Int64} (h : ∀ x ∈ xs, 0 ≤ x.toInt) (t : Int64) :
    sumInt64 xs = .ok t ↔ t.toInt = total xs := by
  rw [sumInt64, foldlM_addInt64_eq_ok h]
  simp

theorem overflows_sumInt64 {xs : List Int64} (h : ∀ x ∈ xs, 0 ≤ x.toInt) :
    Overflows (sumInt64 xs) ↔ Int64.maxValue.toInt < total xs := by
  rw [overflows_iff, Int64.toInt_maxValue]
  have hpos := total_nonneg h
  constructor
  · intro hno
    by_contra hle
    refine hno (Int64.ofInt (total xs)) ((sumInt64_eq_ok h _).mpr ?_)
    exact Int64.toInt_ofInt_of_le (by omega) (by omega)
  · intro hlt t ht
    have hsum := (sumInt64_eq_ok h t).mp ht
    have hmax := t.toInt_lt
    omega

end Checked
end VolumePricing
