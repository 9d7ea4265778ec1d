import Mathlib
import VolumePricing.Pricing.Money

/-!
# Amounts that can be read back

An amount is written as a sign, its units in groups of three digits, and the two
digits of its cents. Points and comma carry nothing: without them the digits are
the numeral of all the cents. So the text tells the number of cents and the sign,
and amounts that differ in one of them are never written alike.
-/

namespace VolumePricing

namespace Decimal

/-- The number that the dyadic stands for. -/
def Dyadic.value (x : Dyadic) : ℚ := x.mantissa * 2 ^ x.exponent

/-- `n` is what the reading is rounded to: a half goes away from zero, and what lies outside the
range of a word of 64 bits becomes the end of the range that is nearest to it. -/
def Reading.RoundsTo (n : ℕ) : Reading → Prop
  | .nan => n = 0
  | .infinite negative => n = if negative then 0 else 2 ^ 64 - 1
  | .zero _ => n = 0
  | .finite negative x => n = if negative then 0 else min ⌊x.value + 1 / 2⌋₊ (2 ^ 64 - 1)

theorem Dyadic.nearestWhole_eq (x : Dyadic) : x.nearestWhole = ⌊x.value + 1 / 2⌋₊ := by
  unfold nearestWhole value
  cases x.exponent with
  | ofNat n =>
    have hhalf : ⌊(1 : ℚ) / 2⌋₊ = 0 := by norm_num
    have hwhole : (x.mantissa : ℚ) * 2 ^ (Int.ofNat n) + 1 / 2 =
        1 / 2 + ((x.mantissa * 2 ^ n : ℕ) : ℚ) := by
      push_cast
      rw [Int.ofNat_eq_natCast, zpow_natCast, add_comm]
    rw [hwhole, Nat.floor_add_natCast (by norm_num), hhalf, zero_add]
    rfl
  | negSucc n =>
    have hsum : (x.mantissa : ℚ) * 2 ^ (Int.negSucc n) + 1 / 2 =
        ((x.mantissa + 2 ^ n : ℕ) : ℚ) / ((2 ^ (n + 1) : ℕ) : ℚ) := by
      rw [zpow_negSucc]
      push_cast
      field_simp
      ring
    rw [hsum, Nat.floor_div_eq_div]
    rfl

theorem Reading.roundsTo_toWord (r : Reading) : r.RoundsTo r.toWord := by
  cases r with
  | nan => rfl
  | infinite negative => rfl
  | zero negative => rfl
  | finite negative x =>
    simp only [RoundsTo, toWord, Dyadic.nearestWhole_eq]
    rfl

end Decimal

namespace Money

/-! ### Groups of three -/

/-- Three digits in every group but the first, which has one to three. -/
def InThrees : List (List Char) → Prop
  | [] => False
  | first :: others => 1 ≤ first.length ∧ first.length ≤ 3 ∧ ∀ g ∈ others, g.length = 3

theorem length_flatten_of_all {others : List (List Char)} (h : ∀ g ∈ others, g.length = 3) :
    others.flatten.length = 3 * others.length := by
  induction others with
  | nil => rfl
  | cons g others ih =>
    obtain ⟨hg, hothers⟩ := List.forall_mem_cons.mp h
    rw [List.flatten_cons, List.length_append, hg, ih hothers, List.length_cons]
    omega

/-- Digits are written in groups of three. -/
theorem exists_groups {ds : List Char} (h : ds ≠ []) :
    ∃ groups, InThrees groups ∧ groups.flatten = ds ∧ grouped ds = ['.'].intercalate groups := by
  induction ds with
  | nil => exact absurd rfl h
  | cons d ds ih =>
    by_cases hds : ds = []
    · subst hds
      exact ⟨[[d]], by simp [InThrees], rfl, by simp [grouped]⟩
    obtain ⟨groups, hthrees, rfl, hgrouped⟩ := ih hds
    cases groups with
    | nil => cases hthrees
    | cons first others =>
      obtain ⟨hpos, hmost, hothers⟩ := hthrees
      have hlength : (first :: others).flatten.length = first.length + 3 * others.length := by
        rw [List.flatten_cons, List.length_append, length_flatten_of_all hothers]
      rw [grouped, hgrouped]
      by_cases hfull : first.length = 3
      · -- The first group is full, and the digit opens a new one.
        rw [if_pos ⟨by omega, hds⟩]
        refine ⟨[d] :: first :: others, ⟨by simp, by simp, ?_⟩, rfl, ?_⟩
        · exact List.forall_mem_cons.mpr ⟨hfull, hothers⟩
        · rw [List.intercalate_cons_cons]
          rfl
      · rw [if_neg (by omega)]
        refine ⟨(d :: first) :: others, ⟨by simp, ?_, hothers⟩, rfl, ?_⟩
        · rw [List.length_cons]
          omega
        · exact List.intercalate_cons_cons_left.symm

/-! ### Digits -/

/-- The numeral of a number has no zero in front, unless it is the number zero. -/
theorem eq_zero_of_head_toDigits {n : ℕ} (h : (Nat.toDigits 10 n).head? = some '0') : n = 0 := by
  induction n using Nat.strong_induction_on with
  | _ n ih =>
    by_cases hn : n < 10
    · rw [Nat.toDigits_of_lt_base hn] at h
      exact Nat.digitChar_eq_zero.mp (Option.some.inj h)
    · rw [Nat.toDigits_of_base_le (by omega) (by omega),
        List.head?_append_of_ne_nil _ Nat.toDigits_ne_nil] at h
      have hzero := ih (n / 10) (by omega) h
      omega

theorem ofDigitChars_twoDigits {n : ℕ} (h : n < 100) (init : ℕ) :
    Nat.ofDigitChars 10 (twoDigits n) init = 100 * init + n := by
  rw [twoDigits, Nat.ofDigitChars_cons_digitChar_of_lt_ten (by omega),
    Nat.ofDigitChars_cons_digitChar_of_lt_ten (by omega), Nat.ofDigitChars_nil]
  omega

theorem isDigit_of_mem_twoDigits {n : ℕ} (h : n < 100) :
    ∀ c ∈ twoDigits n, c.isDigit = true := by
  have htens : n / 10 < 10 := by omega
  have hones : n % 10 < 10 := by omega
  simp [twoDigits, htens, hones]

/-! ### The parts of a written amount -/

/-- The character is a digit and no mark between digits. -/
def isFigure (c : Char) : Bool := c ≠ '.' && c ≠ ','

theorem isFigure_of_isDigit {c : Char} (h : c.isDigit = true) : isFigure c = true := by
  unfold isFigure
  by_contra hmark
  simp only [Bool.and_eq_true, decide_eq_true_eq, not_and_or, not_not] at hmark
  rcases hmark with rfl | rfl <;> simp at h

theorem filter_isFigure {ds : List Char} (h : ∀ c ∈ ds, c.isDigit = true) :
    ds.filter isFigure = ds :=
  List.filter_eq_self.mpr fun c hc => isFigure_of_isDigit (h c hc)

/-- Without the points the groups are as they were before. -/
theorem filter_intercalate {groups : List (List Char)}
    (h : ∀ c ∈ groups.flatten, c.isDigit = true) :
    (['.'].intercalate groups).filter isFigure = groups.flatten := by
  induction groups with
  | nil => rfl
  | cons g groups ih =>
    simp only [List.flatten_cons, List.mem_append] at h
    have hg := filter_isFigure fun c hc => h c (Or.inl hc)
    have hgroups := ih fun c hc => h c (Or.inr hc)
    cases groups with
    | nil => simpa using hg
    | cons g' groups =>
      rw [List.intercalate_cons_cons, List.filter_append, List.filter_append, hg, hgroups,
        List.flatten_cons]
      simp [isFigure]

/-- The parts of which the text of an amount is made. -/
structure Spelling where
  negative : Bool
  groups : List (List Char)
  decimals : List Char

namespace Spelling

/-- What stands behind the sign of the currency. -/
def figures (s : Spelling) : List Char := ['.'].intercalate s.groups ++ [','] ++ s.decimals

def text (s : Spelling) : String :=
  String.ofList ((if s.negative then ['-'] else []) ++ ['$', ' '] ++ s.figures)

/-- The figures without points and comma. -/
def numeral (s : Spelling) : List Char := s.figures.filter isFigure

/-- The parts are those of so many cents. -/
structure Spells (s : Spelling) (cents : ℕ) : Prop where
  inThrees : InThrees s.groups
  units : s.groups.flatten = Nat.toDigits 10 (cents / 100)
  canonical : s.groups.flatten = ['0'] ∨ s.groups.flatten.head? ≠ some '0'
  length_decimals : s.decimals.length = 2
  isDigit : ∀ c ∈ s.groups.flatten ++ s.decimals, c.isDigit = true
  value : Nat.ofDigitChars 10 s.numeral 0 = cents

/-- The text shows the sign and the figures. -/
theorem eq_of_text_eq {s s' : Spelling} (h : s.text = s'.text) :
    s.negative = s'.negative ∧ s.figures = s'.figures := by
  have hchars := String.ofList_injective h
  cases hs : s.negative <;> cases hs' : s'.negative <;> simp [hs, hs'] at hchars
  · exact ⟨rfl, hchars⟩
  · exact ⟨rfl, hchars⟩

end Spelling

theorem exists_spells (n : ℕ) (negative : Bool) :
    ∃ s : Spelling, s.negative = negative ∧ s.Spells n ∧
      s.figures = grouped (Nat.toDigits 10 (n / 100)) ++ [','] ++ twoDigits (n % 100) := by
  obtain ⟨groups, hthrees, hflatten, hgrouped⟩ :=
    exists_groups (Nat.toDigits_ne_nil (n := n / 100) (b := 10))
  have hcents : n % 100 < 100 := Nat.mod_lt n (by omega)
  have hunits : ∀ c ∈ groups.flatten, c.isDigit = true := by
    rw [hflatten]
    exact fun c hc => Nat.isDigit_of_mem_toDigits (by omega) (by omega) hc
  let s : Spelling := ⟨negative, groups, twoDigits (n % 100)⟩
  have hnumeral : s.numeral = Nat.toDigits 10 (n / 100) ++ twoDigits (n % 100) := by
    unfold Spelling.numeral Spelling.figures
    rw [List.filter_append, List.filter_append, filter_intercalate hunits, hflatten,
      filter_isFigure (isDigit_of_mem_twoDigits hcents)]
    simp [isFigure]
  refine ⟨s, rfl, ⟨hthrees, hflatten, ?_, rfl, ?_, ?_⟩, ?_⟩
  · rw [hflatten]
    by_cases hzero : n / 100 = 0
    · left
      rw [hzero]
      rfl
    · exact Or.inr fun hhead => hzero (eq_zero_of_head_toDigits hhead)
  · intro c hc
    rcases List.mem_append.mp hc with hc | hc
    · exact hunits c hc
    · exact isDigit_of_mem_twoDigits hcents c hc
  · rw [hnumeral, Nat.ofDigitChars_append, Nat.ofDigitChars_ten_toDigits,
      ofDigitChars_twoDigits hcents]
    omega
  · rw [hgrouped]
    rfl

theorem exists_spelling (amount : Float) :
    ∃ s : Spelling, text amount = s.text ∧ s.negative = isNegative amount ∧
      s.Spells (cents amount) := by
  obtain ⟨s, hnegative, hspells, hfigures⟩ := exists_spells (cents amount) (isNegative amount)
  refine ⟨s, ?_, hnegative, hspells⟩
  simp only [text, Spelling.text, hnegative, hfigures, List.append_assoc]

/-- What the text of an amount tells. -/
theorem text_eq_iff (amount other : Float) : text amount = text other ↔
    cents amount = cents other ∧ isNegative amount = isNegative other := by
  constructor
  · intro h
    obtain ⟨s, htext, hnegative, hspells⟩ := exists_spelling amount
    obtain ⟨s', htext', hnegative', hspells'⟩ := exists_spelling other
    rw [htext, htext'] at h
    obtain ⟨hsign, hfigures⟩ := Spelling.eq_of_text_eq h
    constructor
    · rw [← hspells.value, ← hspells'.value, Spelling.numeral, Spelling.numeral, hfigures]
    · rw [← hnegative, ← hnegative', hsign]
  · rintro ⟨hcents, hnegative⟩
    rw [text, text, hcents, hnegative]

/-- Every amount is written as its cents are spelled, which are rounded from a hundred times the
amount, and two amounts are written alike only when they agree in cents and in sign. -/
theorem text_reads_back (amount : Float) :
    (Decimal.Reading.of (amount.abs * 100.0)).RoundsTo (cents amount) ∧
    (∃ s : Spelling, text amount = s.text ∧
      (s.negative = true ↔ amount < 0.0 ∧ 0 < cents amount) ∧ s.Spells (cents amount)) ∧
    ∀ other, text amount = text other ↔
      cents amount = cents other ∧ isNegative amount = isNegative other := by
  refine ⟨Decimal.Reading.roundsTo_toWord _, ?_, text_eq_iff amount⟩
  obtain ⟨s, htext, hnegative, hspells⟩ := exists_spelling amount
  refine ⟨s, htext, ?_, hspells⟩
  rw [hnegative, isNegative, Bool.and_eq_true, decide_eq_true_eq, decide_eq_true_eq]

example : text (-1234567.895) = "-$ 1.234.567,90" := by decide +kernel

/-- What rounds to no cent at all has no sign. -/
example : text (-0.004) = "$ 0,00" := by decide +kernel

end Money

end VolumePricing
