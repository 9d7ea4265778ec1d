import Mathlib
import VolumePricing.Decimal.Numeral

/-!
# Which numerals have a finite double

The nearest double to a numeral is infinite from half a step beyond the largest double on. A double
is worked out from a whole number of binary digits, to which two bits are added that say what is
left of the value behind them. Digits are dropped until the number has as many as a double, and the
rest is rounded.
-/

namespace VolumePricing.Decimal

open Float.Model (UnpackedFloat totalExponent)
open Float.Model.Format (binary64)
open Float.Model.UnpackedFloat

/-! ### Exponents -/

/-- The number has an exponent that doubles have. -/
def fits : UnpackedFloat → Bool
  | .finite _ _ e _ => e ≤ 971
  | .zero _ => true
  | _ => false

theorem isFinite_unpack (b : BitVec binary64.numBits) :
    (unpack binary64 b).isFinite = true ↔ unpackExponent b ≠ -1#_ := by
  unfold unpack
  dsimp only
  split_ifs with he <;> simp only [UnpackedFloat.isFinite, he, ne_eq, not_true, not_false_eq_true,
    Bool.false_eq_true]

/-- A finite double has an exponent that doubles have. -/
theorem fits_unpack (b : BitVec binary64.numBits) :
    fits (unpack binary64 b) = (unpack binary64 b).isFinite := by
  have hbound : unpackExponent b ≠ -1#_ → (unpackExponent b).toNat ≤ 2046 := by
    intro he
    have hlt := (unpackExponent b).isLt
    have hne : (unpackExponent b).toNat ≠ 2047 := by
      intro h
      exact he (BitVec.eq_of_toNat_eq (by rw [h]; rfl))
    change (unpackExponent b).toNat < 2048 at hlt
    omega
  unfold unpack
  dsimp only
  split_ifs with he hm hz hm
  · rfl
  · rfl
  · rfl
  · simp only [fits, UnpackedFloat.isFinite, decide_eq_true_eq, hz]
    decide
  · have hle := hbound he
    have hbias : (binary64.exponentBias : ℤ) = 1023 := by decide
    refine decide_eq_true ?_
    rw [hbias]
    omega

theorem isFinite_unpack_pack (f : UnpackedFloat) :
    (unpack binary64 (pack binary64 f)).isFinite = fits f := by
  rw [Bool.eq_iff_iff, isFinite_unpack]
  cases f with
  | notANumber => simp [pack, packedNaN, fits]
  | infinity s => simp [pack, packedInfinity, fits]
  | zero s => simp [pack, packedZero, fits]
  | finite s m e hm =>
    have hbias : (binary64.exponentBias : ℤ) = 1023 := by decide
    have hsize : 2 ^ binary64.exponentBits = 2048 := by decide
    simp only [fits, decide_eq_true_eq]
    unfold pack
    dsimp only
    rw [hbias]
    split_ifs with hlarge hnormal
    · simp only [packedInfinity, unpackExponent_packComponents, ne_eq, not_true, false_iff]
      omega
    · rw [unpackExponent_packComponents]
      refine ⟨fun _ => by omega, fun _ h => ?_⟩
      have htoNat : (e + 1023 + 52).toNat % 2048 = 2047 := congrArg BitVec.toNat h
      rw [Nat.mod_eq_of_lt (by omega)] at htoNat
      omega
    · rw [unpackExponent_packComponents]
      exact ⟨fun _ => by omega, fun _ => by decide⟩

theorem isFinite_ofModel_pack (f : UnpackedFloat) :
    (Float.ofModel (.pack f)).isFinite = fits f := isFinite_unpack_pack f

/-- The opposite of a finite number is finite. -/
theorem isFinite_neg (x : Float) : (-x).isFinite = x.isFinite := by
  change (Float.ofModel (.pack x.toModel.unpack.neg)).isFinite = x.toModel.unpack.isFinite
  rw [isFinite_ofModel_pack, Float.Model.unpack, ← fits_unpack]
  cases unpack binary64 x.toModel.toBits.toBitVec <;> rfl

/-! ### Digits with two more bits -/

/-- The digits and the first bit, which is worth a half. -/
def low (em : ExtendedMantissa) : ℚ := em.mantissa + if em.roundBit then 1 / 2 else 0

/-- The digits and the bits stand for the number: what the second bit tells of is less than what the
first is worth. -/
structure Holds (em : ExtendedMantissa) (x : ℚ) : Prop where
  low_le : low em ≤ x
  lt_next : x < low em + 1 / 2
  exact_of : em.stickyBit = false → x = low em
  lt_of : em.stickyBit = true → low em < x

/-- A digit that is dropped becomes the first bit. -/
theorem low_shiftRightOne (em : ExtendedMantissa) : low em.shiftRightOne = em.mantissa / 2 := by
  have hm : (em.mantissa : ℚ) = 2 * (em.mantissa / 2 : ℕ) + (em.mantissa % 2 : ℕ) := by
    exact_mod_cast (Nat.div_add_mod em.mantissa 2).symm
  rw [hm]
  rcases Nat.mod_two_eq_zero_or_one em.mantissa with hbit | hbit
  · simp [low, ExtendedMantissa.shiftRightOne, hbit]
  · simp only [low, ExtendedMantissa.shiftRightOne, hbit]
    norm_num
    ring

theorem mantissa_le_low (em : ExtendedMantissa) : (em.mantissa : ℚ) ≤ low em := by
  unfold low
  split <;> linarith

theorem low_le_half (em : ExtendedMantissa) : low em ≤ em.mantissa + 1 / 2 := by
  unfold low
  split <;> linarith

theorem Holds.shiftRightOne {em : ExtendedMantissa} {x : ℚ} (h : Holds em x) :
    Holds em.shiftRightOne (x / 2) := by
  have hmantissa := mantissa_le_low em
  have hhalf := low_le_half em
  obtain ⟨hlow, hnext, hexact, hlt⟩ := h
  refine ⟨?_, ?_, fun hsticky => ?_, fun hsticky => ?_⟩ <;> rw [low_shiftRightOne]
  · linarith
  · linarith
  · obtain ⟨hround, hrest⟩ : em.roundBit = false ∧ em.stickyBit = false := by
      simpa [ExtendedMantissa.shiftRightOne] using hsticky
    rw [hexact hrest, low, hround]
    simp
  · rcases Bool.or_eq_true_iff.mp hsticky with hround | hrest
    · have hvalue : low em = em.mantissa + 1 / 2 := by rw [low, hround, if_pos rfl]
      linarith
    · have hbehind := hlt hrest
      linarith

theorem Holds.shiftRight {em : ExtendedMantissa} {x : ℚ} (h : Holds em x) (n : ℕ) :
    Holds (em >>> n) (x / 2 ^ n) := by
  change Holds (n.repeat ExtendedMantissa.shiftRightOne em) (x / 2 ^ n)
  induction n with
  | zero =>
    rw [pow_zero, div_one]
    exact h
  | succ n ih =>
    rw [pow_succ, ← div_div]
    exact ih.shiftRightOne

theorem holds_exact (m : ℕ) : Holds (.ofMantissaAndAccuracy m .exact) m := by
  constructor <;> simp [ExtendedMantissa.ofMantissaAndAccuracy, low]

/-- A quotient is held by its whole part and what the remainder says. -/
theorem holds_fraction (a : ℕ) {b : ℕ} (hb : 0 < b) :
    Holds (.ofMantissaAndAccuracy (a / b) (accuracyOfFraction (a % b) b)) ((a : ℚ) / b) := by
  have hpos : (0 : ℚ) < b := by exact_mod_cast hb
  have hvalue : (a : ℚ) / b = (a / b : ℕ) + (a % b : ℕ) / b := by
    have hdiv : (a : ℚ) = b * (a / b : ℕ) + (a % b : ℕ) := by
      exact_mod_cast (Nat.div_add_mod a b).symm
    rw [div_eq_iff hpos.ne', add_mul, div_mul_cancel₀ _ hpos.ne']
    linarith
  have hrest : ((a % b : ℕ) : ℚ) < b := by exact_mod_cast Nat.mod_lt a hb
  rw [hvalue]
  generalize a / b = q at *
  generalize a % b = r at *
  unfold accuracyOfFraction
  by_cases hr : r = 0
  · rw [if_pos hr, hr]
    simpa using holds_exact q
  · have hrpos : (0 : ℚ) < r / b := by
      have : (0 : ℚ) < r := by exact_mod_cast Nat.pos_of_ne_zero hr
      positivity
    rw [if_neg hr]
    rcases lt_trichotomy (2 * r) b with h | h | h
    · rw [Nat.compare_eq_lt.mpr h]
      have hhalf : (r : ℚ) / b < 1 / 2 := by
        rw [div_lt_iff₀ hpos]
        have : (2 * r : ℚ) < b := by exact_mod_cast h
        linarith
      constructor <;> simp [ExtendedMantissa.ofMantissaAndAccuracy, low] <;> linarith
    · rw [Nat.compare_eq_eq.mpr h]
      have hhalf : (r : ℚ) / b = 1 / 2 := by
        rw [div_eq_iff hpos.ne']
        have : (2 * r : ℚ) = b := by exact_mod_cast h
        linarith
      constructor <;> simp [ExtendedMantissa.ofMantissaAndAccuracy, low] <;> linarith
    · rw [Nat.compare_eq_gt.mpr h]
      have hhalf : 1 / 2 < (r : ℚ) / b := by
        rw [lt_div_iff₀ hpos]
        have : (b : ℚ) < 2 * r := by exact_mod_cast h
        linarith
      have hone : (r : ℚ) / b < 1 := (div_lt_one hpos).mpr hrest
      constructor <;> simp [ExtendedMantissa.ofMantissaAndAccuracy, low] <;> linarith

/-- Rounding goes up behind a half, and in the middle from an odd number. -/
theorem roundedMantissa_eq (m : ℕ) (round sticky : Bool) :
    ExtendedMantissa.roundedMantissa ⟨m, round, sticky⟩ =
      if round then if sticky then m + 1 else m + m % 2 else m := by
  cases round <;> cases sticky <;> rfl

/-- Rounding does not go beyond a whole number. -/
theorem Holds.rounded_le {em : ExtendedMantissa} {x : ℚ} (h : Holds em x) {n : ℕ} (hx : x ≤ n) :
    em.roundedMantissa ≤ n := by
  obtain ⟨m, round, sticky⟩ := em
  have hlow : low ⟨m, round, sticky⟩ ≤ n := h.low_le.trans hx
  rw [roundedMantissa_eq]
  cases round with
  | false =>
    have hm : (m : ℚ) ≤ n := by simpa [low] using hlow
    simpa using hm
  | true =>
    have hm : (m : ℚ) < n := by
      have hhalf : (m : ℚ) + 1 / 2 ≤ n := by simpa [low] using hlow
      linarith
    have hlt : m < n := by exact_mod_cast hm
    cases sticky <;> simp <;> omega

/-- Rounding comes to an even number from half a step below it on. -/
theorem Holds.le_rounded_iff {em : ExtendedMantissa} {x : ℚ} (h : Holds em x) {n : ℕ}
    (hn : n % 2 = 0) : n ≤ em.roundedMantissa ↔ (n : ℚ) - 1 / 2 ≤ x := by
  obtain ⟨m, round, sticky⟩ := em
  obtain ⟨hlow, hnext, hexact, hlt⟩ := h
  rw [roundedMantissa_eq]
  cases round with
  | false =>
    simp only [low, Bool.false_eq_true, if_false, add_zero] at *
    constructor
    · intro hle
      have hcast : (n : ℚ) ≤ m := by exact_mod_cast hle
      linarith
    · intro hx
      have hcast : (n : ℚ) < m + 1 := by linarith
      have hle : n < m + 1 := by exact_mod_cast hcast
      omega
  | true =>
    simp only [low, if_true] at *
    cases sticky with
    | false =>
      have hx := hexact rfl
      constructor
      · intro hle
        have hcast : (n : ℚ) ≤ m + 1 := by
          have hle : n ≤ m + 1 := by simp at hle; omega
          exact_mod_cast hle
        linarith
      · intro hle
        have hcast : (n : ℚ) ≤ m + 1 := by linarith
        have hle : n ≤ m + 1 := by exact_mod_cast hcast
        simp
        omega
    | true =>
      have hx := hlt rfl
      constructor
      · intro hle
        have hcast : (n : ℚ) ≤ m + 1 := by exact_mod_cast hle
        linarith
      · intro hle
        have hcast : (n : ℚ) < m + 2 := by linarith
        have hlt : n < m + 2 := by exact_mod_cast hcast
        simp
        omega

/-! ### Doubles -/

/-- The exponent at which a number of `t` binary places in all is rounded. -/
theorem targetExponent_eq (t : ℤ) : binary64.targetExponent t = max (t - 53) (-1074) := rfl

/-- A rounded number may have become one place longer, and is then moved by that place. -/
theorem shiftToTargetExponent_rounded {n : ℕ} {e : ℤ} (hn : n ≤ 2 ^ 53) (he : -1074 ≤ e) :
    shiftToTargetExponent binary64 n e .exact =
      if n = 2 ^ 53 then (⟨2 ^ 52, false, false⟩, e + 1) else (⟨n, false, false⟩, e) := by
  simp only [shiftToTargetExponent, shiftToExponent, targetExponent_eq, totalExponent]
  by_cases hfull : n = 2 ^ 53
  · have hlog : n.log2 = 53 := by rw [hfull, Nat.log2_two_pow]
    have hshift : (max ((n.log2 : ℤ) + 1 + e - 53) (-1074) - e).toNat = 1 := by omega
    rw [if_pos hfull, hshift, hfull]
    rfl
  · have hlog : n.log2 ≤ 52 := by
      by_cases hzero : n = 0
      · rw [hzero, Nat.log2_zero]
        omega
      · exact Nat.le_of_lt_succ ((Nat.log2_lt hzero).mpr (Nat.lt_of_le_of_ne hn hfull))
    have hshift : (max ((n.log2 : ℤ) + 1 + e - 53) (-1074) - e).toNat = 0 := by omega
    rw [if_neg hfull, hshift, Nat.cast_zero, add_zero]
    rfl

theorem mantissa_ofMantissaAndAccuracy (m : ℕ) (accuracy : Accuracy) :
    (ExtendedMantissa.ofMantissaAndAccuracy m accuracy).mantissa = m := by
  rcases accuracy with _ | (_ | _ | _) <;> rfl

/-- Half a step beyond the largest double. -/
def limit : ℚ := 2 ^ 1024 - 2 ^ 970

theorem limit_eq : limit = (2 ^ 53 - 1 / 2) * 2 ^ (971 : ℤ) := by
  have hstep : (2 : ℚ) ^ (971 : ℤ) = 2 ^ 970 * 2 := by
    rw [zpow_ofNat, pow_succ]
  have hlarge : (2 : ℚ) ^ 1024 = 2 ^ 53 * (2 ^ 970 * 2) := by
    rw [← pow_succ, ← pow_add]
  rw [limit, hstep, hlarge]
  generalize (2 : ℚ) ^ 970 = y
  ring

theorem le_limit {u : ℤ} (hu : u ≤ 971) : (2 ^ 53 - 1 / 2) * (2 : ℚ) ^ u ≤ limit := by
  rw [limit_eq]
  exact mul_le_mul_of_nonneg_left (zpow_le_zpow_right₀ one_le_two hu) (by norm_num)

theorem limit_le {u : ℤ} (hu : 971 ≤ u) : limit ≤ (2 ^ 53 - 1 / 2) * (2 : ℚ) ^ u := by
  rw [limit_eq]
  exact mul_le_mul_of_nonneg_left (zpow_le_zpow_right₀ one_le_two hu) (by norm_num)

/-- Numbers of 53 places are below the limit up to the exponent before the last. -/
theorem two_zpow_le_limit {t : ℤ} (ht : t < 971) : 2 ^ (53 : ℤ) * (2 : ℚ) ^ t ≤ limit := by
  have hpos : (0 : ℚ) < 2 ^ t := zpow_pos two_pos t
  calc (2 : ℚ) ^ (53 : ℤ) * 2 ^ t ≤ (2 ^ 53 - 1 / 2) * 2 ^ (t + 1) := by
        rw [zpow_add₀ two_ne_zero]
        nlinarith
    _ ≤ limit := le_limit (by omega)

/-- Behind the last exponent they are beyond it. -/
theorem limit_le_two_zpow {t : ℤ} (ht : 971 < t) : limit ≤ 2 ^ (52 + t) := by
  calc limit ≤ (2 ^ 53 - 1 / 2) * 2 ^ (t - 1) := limit_le (by omega)
    _ ≤ 2 ^ (53 : ℤ) * 2 ^ (t - 1) := by
      refine mul_le_mul_of_nonneg_right ?_ (zpow_pos two_pos _).le
      norm_num
    _ = 2 ^ (52 + t) := by
      rw [← zpow_add₀ two_ne_zero]
      congr 1
      omega

section Places

variable {m : ℕ} {e : ℤ} {accuracy : Accuracy} {x : ℚ}
  (hx : Holds (.ofMantissaAndAccuracy m accuracy) (x / 2 ^ e))
include hx

/-- The number that the digits stand for has no more places than they have. -/
theorem Holds.lt_of_digits : x < 2 ^ ((m.log2 : ℤ) + 1 + e) := by
  have hnext := hx.lt_next
  have hhalf := low_le_half (.ofMantissaAndAccuracy m accuracy)
  rw [mantissa_ofMantissaAndAccuracy] at hhalf
  have hdigits : (m : ℚ) + 1 ≤ 2 ^ ((m.log2 : ℤ) + 1) := by
    exact_mod_cast Nat.lt_log2_self
  rw [zpow_add₀ two_ne_zero, ← div_lt_iff₀ (zpow_pos two_pos e)]
  linarith

theorem Holds.le_of_digits (hm : m ≠ 0) : 2 ^ ((m.log2 : ℤ) + e) ≤ x := by
  have hlow := hx.low_le
  have hmantissa := mantissa_le_low (.ofMantissaAndAccuracy m accuracy)
  rw [mantissa_ofMantissaAndAccuracy] at hmantissa
  have hdigits : (2 : ℚ) ^ (m.log2 : ℤ) ≤ m := by
    exact_mod_cast Nat.log2_self_le hm
  rw [zpow_add₀ two_ne_zero, ← le_div_iff₀ (zpow_pos two_pos e)]
  linarith

/-- The first step of the rounding takes as many digits away as a double does not have. -/
theorem Holds.shiftToTargetExponent {t : ℤ} (ht : binary64.targetExponent (totalExponent m e) = t)
    (he : e ≤ t) : ∃ em, UnpackedFloat.shiftToTargetExponent binary64 m e accuracy = (em, t) ∧
      Holds em (x / 2 ^ t) := by
  refine ⟨ExtendedMantissa.ofMantissaAndAccuracy m accuracy >>> (t - e).toNat, ?_, ?_⟩
  · have hexponent : e + ((t - e).toNat : ℤ) = t := by omega
    simp only [UnpackedFloat.shiftToTargetExponent, shiftToExponent, ht, hexponent]
  · have hpower : (2 : ℚ) ^ t = 2 ^ e * 2 ^ (t - e).toNat := by
      rw [← zpow_natCast, ← zpow_add₀ two_ne_zero]
      congr 1
      omega
    rw [hpower, ← div_div]
    exact hx.shiftRight _

/-- What is worked out from digits that are as many as a double has, or more, is finite up to half a
step beyond the largest double. -/
theorem Holds.fits_round (sign : Sign) (he : e ≤ binary64.targetExponent (totalExponent m e)) :
    fits (roundWithAccuracy binary64 sign m e accuracy) = true ↔ x < limit := by
  have htarget := targetExponent_eq (totalExponent m e)
  generalize ht : binary64.targetExponent (totalExponent m e) = t at he htarget
  rw [totalExponent] at htarget
  obtain ⟨em, hfirst, hem⟩ := hx.shiftToTargetExponent ht he
  have hpos : (0 : ℚ) < 2 ^ t := zpow_pos two_pos t
  have hplaces : x < 2 ^ (53 : ℤ) * 2 ^ t := by
    calc x < 2 ^ ((m.log2 : ℤ) + 1 + e) := hx.lt_of_digits
      _ ≤ 2 ^ (53 + t) := zpow_le_zpow_right₀ one_le_two (by omega)
      _ = 2 ^ (53 : ℤ) * 2 ^ t := zpow_add₀ two_ne_zero _ _
  have hrounded : em.roundedMantissa ≤ 2 ^ 53 := by
    apply hem.rounded_le
    rw [div_le_iff₀ hpos]
    exact_mod_cast hplaces.le
  have hhalf : 2 ^ 53 ≤ em.roundedMantissa ↔ (2 ^ 53 - 1 / 2) * 2 ^ t ≤ x := by
    rw [hem.le_rounded_iff (by norm_num), le_div_iff₀ hpos]
    norm_num
  rw [roundWithAccuracy, hfirst]
  dsimp only
  rw [shiftToTargetExponent_rounded hrounded (by omega)]
  by_cases hfull : em.roundedMantissa = 2 ^ 53
  · have hge := hhalf.mp hfull.ge
    have hfits : t + 1 ≤ 971 ↔ x < limit := by
      refine ⟨fun hle => hplaces.trans_le (two_zpow_le_limit (by omega)), fun hlt => ?_⟩
      by_contra hle
      exact absurd hlt (not_lt.mpr ((limit_le (by omega)).trans hge))
    simp only [if_pos hfull]
    rw [dif_neg (by norm_num), fits, decide_eq_true_eq, hfits]
  · have hlt : x < (2 ^ 53 - 1 / 2) * 2 ^ t := not_le.mp ((not_congr hhalf).mp (by omega))
    simp only [if_neg hfull]
    by_cases hle : t ≤ 971
    · have hfits : x < limit := lt_of_lt_of_le hlt (le_limit hle)
      split
      · simp [fits, hfits]
      · simp [fits, hfits, hle]
    · have hm : m ≠ 0 := by
        rintro rfl
        rw [Nat.log2_zero] at htarget
        omega
      have hlow : (2 : ℚ) ^ (52 + t) ≤ x :=
        (zpow_le_zpow_right₀ one_le_two (by omega)).trans (hx.le_of_digits hm)
      have hnonzero : em.roundedMantissa ≠ 0 := by
        have hrounds : 2 ^ 52 ≤ em.roundedMantissa := by
          rw [hem.le_rounded_iff (by norm_num), le_div_iff₀ hpos]
          rw [zpow_add₀ two_ne_zero] at hlow
          norm_num at hlow ⊢
          linarith
        intro hzero
        omega
      have hlarge : limit ≤ x := (limit_le_two_zpow (by omega)).trans hlow
      rw [dif_neg hnonzero, fits, decide_eq_true_eq]
      exact ⟨fun h => absurd h hle, fun h => absurd h hlarge.not_gt⟩

end Places

/-! ### Numerals -/

theorem one_le_limit : 1 ≤ limit := by
  refine le_trans ?_ (le_limit (u := 0) (by norm_num))
  norm_num

section Scientific

variable {digits : ℕ} {exponent : ℤ}

/-- Below the powers of ten that are worked out a number is smaller than one. -/
theorem lt_limit_of_small (h : exponent < -(2048 + digits.log2)) :
    (digits : ℚ) * 10 ^ exponent < limit := by
  have hlog : (digits : ℚ) < 10 ^ ((digits.log2 : ℤ) + 1) := by
    calc (digits : ℚ) < 2 ^ ((digits.log2 : ℤ) + 1) := by exact_mod_cast Nat.lt_log2_self
      _ ≤ 10 ^ ((digits.log2 : ℤ) + 1) :=
        zpow_le_zpow_left₀ (by omega) (by norm_num) (by norm_num)
  calc (digits : ℚ) * 10 ^ exponent < 10 ^ ((digits.log2 : ℤ) + 1) * 10 ^ exponent :=
        mul_lt_mul_of_pos_right hlog (zpow_pos (by norm_num) _)
    _ = 10 ^ ((digits.log2 : ℤ) + 1 + exponent) := (zpow_add₀ (by norm_num) _ _).symm
    _ ≤ 10 ^ (0 : ℤ) := zpow_le_zpow_right₀ (by norm_num) (by omega)
    _ ≤ limit := by simpa using one_le_limit

variable (hdigits : digits ≠ 0)
include hdigits

/-- Above them a number is beyond all doubles. -/
theorem limit_le_of_large (h : 2048 < exponent) : limit ≤ (digits : ℚ) * 10 ^ exponent := by
  have hone : (1 : ℚ) ≤ digits := by exact_mod_cast Nat.one_le_iff_ne_zero.mpr hdigits
  calc limit ≤ 2 ^ (1024 : ℤ) := @limit_le_two_zpow 972 (by norm_num)
    _ ≤ 10 ^ (1024 : ℤ) := zpow_le_zpow_left₀ (by norm_num) (by norm_num) (by norm_num)
    _ ≤ 10 ^ exponent := zpow_le_zpow_right₀ (by norm_num) (by omega)
    _ ≤ digits * 10 ^ exponent := le_mul_of_one_le_left (zpow_pos (by norm_num) _).le hone

omit hdigits in
theorem ne_zero_of_le {n k : ℕ} (h : 2 ^ k ≤ n) : n ≠ 0 :=
  (lt_of_lt_of_le (Nat.two_pow_pos k) h).ne'

/-- A product is rounded from digits that are more than a double has. -/
theorem fits_product (hexponent : 0 ≤ exponent) (sign : Sign) :
    fits (roundWithAccuracy binary64 sign ((digits <<< 53) * 10 ^ exponent.toNat) (-53 + 0)
      .exact) = true ↔ (digits : ℚ) * 10 ^ exponent < limit := by
  have hpower : (10 : ℚ) ^ exponent = 10 ^ exponent.toNat := by
    rw [← zpow_natCast, Int.toNat_of_nonneg hexponent]
  refine Holds.fits_round ?_ sign ?_
  · have hvalue : (digits : ℚ) * (10 : ℚ) ^ exponent / (2 : ℚ) ^ (-53 + 0 : ℤ) =
        ((digits <<< 53 * 10 ^ exponent.toNat : ℕ) : ℚ) := by
      rw [Nat.shiftLeft_eq, hpower, add_zero, zpow_neg, zpow_ofNat, div_inv_eq_mul]
      push_cast
      ring
    rw [hvalue]
    exact holds_exact _
  · have hplaces : 2 ^ 53 ≤ (digits <<< 53) * 10 ^ exponent.toNat := by
      rw [Nat.shiftLeft_eq]
      have hten : 1 ≤ 10 ^ exponent.toNat := Nat.one_le_pow _ _ (by norm_num)
      have hone : 1 ≤ digits := Nat.one_le_iff_ne_zero.mpr hdigits
      nlinarith
    have hlog := (Nat.le_log2 (ne_zero_of_le hplaces)).mpr hplaces
    rw [targetExponent_eq, totalExponent]
    omega

/-- How many binary places of a quotient of whole numbers are worked out. -/
def places (a b : ℕ) : ℕ := (-min 0 (max ((a.log2 : ℤ) - b.log2 - 53) (-1074))).toNat

omit hdigits in
theorem divCore_eq (a b : ℕ) : divCore binary64 a 0 b 0 =
    ((a <<< places a b) / b, -(places a b : ℤ), accuracyOfFraction ((a <<< places a b) % b) b) := by
  have htarget : min ((0 : ℤ) - 0)
      (binary64.targetExponent (totalExponent a 0 - totalExponent b 0)) = -(places a b : ℤ) := by
    rw [targetExponent_eq, totalExponent, totalExponent, places]
    omega
  rw [divCore, htarget, sub_zero, zero_sub, neg_neg, Int.toNat_natCast]

/-- A quotient is worked out to digits that are as many as a double has, or more. -/
theorem fits_quotient {b : ℕ} (hb : 0 < b) (sign : Sign) :
    fits (roundWithAccuracy binary64 sign (divCore binary64 digits 0 b 0).1
      (divCore binary64 digits 0 b 0).2.1 (divCore binary64 digits 0 b 0).2.2) = true ↔
      (digits : ℚ) / b < limit := by
  have hs : (places digits b : ℤ) = 1074 ∨ (b.log2 : ℤ) - digits.log2 + 53 ≤ places digits b := by
    unfold places
    omega
  rw [divCore_eq]
  dsimp only
  generalize places digits b = s at hs
  refine Holds.fits_round ?_ sign ?_
  · have hvalue : (digits : ℚ) / b / 2 ^ (-(s : ℤ)) = ((digits <<< s : ℕ) : ℚ) / b := by
      rw [Nat.shiftLeft_eq, zpow_neg, zpow_natCast]
      push_cast
      field_simp
    rw [hvalue]
    exact holds_fraction _ hb
  · rw [targetExponent_eq, totalExponent]
    rcases hs with hs | hs
    · omega
    · have hplaces : 2 ^ 52 ≤ (digits <<< s) / b := by
        rw [Nat.le_div_iff_mul_le hb, Nat.shiftLeft_eq]
        calc 2 ^ 52 * b ≤ 2 ^ 52 * 2 ^ (b.log2 + 1) :=
              Nat.mul_le_mul_left _ Nat.lt_log2_self.le
          _ = 2 ^ (52 + (b.log2 + 1)) := (pow_add _ _ _).symm
          _ ≤ 2 ^ (digits.log2 + s) := Nat.pow_le_pow_right two_pos (by omega)
          _ = 2 ^ digits.log2 * 2 ^ s := pow_add _ _ _
          _ ≤ digits * 2 ^ s := Nat.mul_le_mul_right _ (Nat.log2_self_le hdigits)
      have hlog := (Nat.le_log2 (ne_zero_of_le hplaces)).mpr hplaces
      omega

end Scientific

/-- A numeral is rounded to a finite double below the limit, and to infinity from there on. -/
theorem fits_ofScientific (digits : ℕ) (exponent : ℤ) :
    fits (UnpackedFloat.ofScientific binary64 digits exponent) = true ↔
      (digits : ℚ) * 10 ^ exponent < limit := by
  have hsize : (2 : ℤ) ^ binary64.exponentBits = 2048 := by norm_num
  unfold UnpackedFloat.ofScientific
  rw [hsize]
  split_ifs with hzero hlarge hsmall hnonneg
  · simpa [hzero, fits] using lt_of_lt_of_le one_pos one_le_limit
  · simpa [fits] using limit_le_of_large hzero hlarge
  · simpa [fits] using lt_limit_of_small hsmall
  · exact fits_product hzero hnonneg _
  · have hpower : (digits : ℚ) * 10 ^ exponent = digits / (10 ^ (-exponent).toNat : ℕ) := by
      have hneg : -((-exponent).toNat : ℤ) = exponent := by omega
      rw [Nat.cast_pow, Nat.cast_ofNat, ← zpow_natCast, div_eq_mul_inv, ← zpow_neg, hneg]
    rw [hpower]
    exact fits_quotient hzero (Nat.pow_pos (by norm_num)) _

theorem isFinite_nearest (digits : ℕ) (exponent : ℤ) :
    (nearest digits exponent).isFinite = true ↔ (digits : ℚ) * 10 ^ exponent < limit := by
  change (Float.ofModel (.pack (UnpackedFloat.ofScientific binary64 digits exponent))).isFinite =
    true ↔ _
  rw [isFinite_ofModel_pack, fits_ofScientific]

end VolumePricing.Decimal
