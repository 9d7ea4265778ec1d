/-!
# The shortest decimal of a double

A finite positive double is a dyadic number `mantissa * 2 ^ exponent`, and the
reals that round to it form an interval around it. Among the decimal grids of
step `10 ^ k` the coarsest one with a point in that interval is chosen, and of
its points the one nearest to the number. Two points may be equally near, and
then the tie decides. All comparisons are between natural numbers, so nothing is
lost on the way.
-/

namespace VolumePricing.Decimal

/-- The number `digits * 10 ^ exponent`. -/
structure Scaled where
  digits : Nat
  exponent : Int
  deriving DecidableEq, Repr

/-- The positive number `mantissa * 2 ^ exponent`. `halfStepBelow` says that the
next double below is only half as far away as the one above. -/
structure Dyadic where
  mantissa : Nat
  exponent : Int
  halfStepBelow : Bool
  deriving DecidableEq, Repr

/-- Which of two decimals stands for a number that lies right between them. -/
inductive Tie
  | toEven
  | up
  deriving DecidableEq, Repr

/-- The lower of two neighbours counts, `below` being its digits. -/
def Tie.goesDown (below : Nat) : Tie → Bool
  | .toEven => below % 2 = 0
  | .up => false

/-- What the bits of a double stand for. -/
inductive Reading
  | nan
  | infinite (negative : Bool)
  | zero (negative : Bool)
  | finite (negative : Bool) (magnitude : Dyadic)
  deriving DecidableEq, Repr

/-- The number of fractions: they have 52 bits. -/
def fractionRange : Nat := 4503599627370496

def Reading.ofBits (bits : Nat) : Reading :=
  let negative := bits.testBit 63
  let exponent := (bits >>> 52) % 2048
  let fraction := bits % fractionRange
  if exponent = 2047 then
    if fraction = 0 then .infinite negative else .nan
  else if exponent = 0 then
    if fraction = 0 then .zero negative else .finite negative ⟨fraction, -1074, false⟩
  else
    .finite negative
      ⟨fractionRange + fraction, (exponent : Int) - 1075, decide (fraction = 0 ∧ 1 < exponent)⟩

def Reading.of (x : Float) : Reading :=
  Reading.ofBits x.toBits.toNat

/-- The numerator of `10 ^ k / 2 ^ q`. -/
def gridNumerator (k q : Int) : Nat := Nat.pow 10 k.toNat * Nat.pow 2 (-q).toNat

/-- The denominator of `10 ^ k / 2 ^ q`. -/
def gridDenominator (k q : Int) : Nat := Nat.pow 2 q.toNat * Nat.pow 10 (-k).toNat

/-- The point of the grid of step `10 ^ k` that stands for `x`, if the grid has one.
Quarters of the mantissa's unit measure the interval; its ends belong to it
when the mantissa is even. -/
def Dyadic.onGrid? (tie : Tie) (x : Dyadic) (k : Int) : Option Scaled :=
  let step := gridNumerator k (x.exponent - 2)
  let unit := gridDenominator k (x.exponent - 2)
  let value := 4 * x.mantissa * unit
  let low := (4 * x.mantissa - if x.halfStepBelow then 1 else 2) * unit
  let high := (4 * x.mantissa + 2) * unit
  let stands (d : Nat) : Bool :=
    if x.mantissa % 2 = 0 then decide (low ≤ d * step ∧ d * step ≤ high)
    else decide (low < d * step ∧ d * step < high)
  let below := value / step
  let above := below + 1
  match stands below, stands above with
  | true, true =>
    let down := value - below * step
    let up := above * step - value
    if down < up ∨ (down = up ∧ tie.goesDown below) then some ⟨below, k⟩ else some ⟨above, k⟩
  | true, false => some ⟨below, k⟩
  | false, true => some ⟨above, k⟩
  | false, false => none

/-- An exponent `k` with `x < 10 ^ k`, at most a few steps too large. -/
def Dyadic.coarseExponent (x : Dyadic) : Int :=
  (x.mantissa.log2 + 1 + x.exponent) * 30103 / 100000 + 2

/-- The grids are tried from coarse to fine. A grid of seventeen digits always has a point. -/
def Dyadic.shortest (tie : Tie) (x : Dyadic) : Scaled :=
  ((List.range 24).findSome? fun (i : Nat) => x.onGrid? tie (x.coarseExponent - i)).getD ⟨x.mantissa, 0⟩

/-!
### Doubles rounded to whole numbers

A double is rounded to the nearest whole number, and a half goes up. A word
holds only so many numbers, so what is too large for it becomes the largest one
and what is negative becomes zero, as does what is no number at all.
-/

/-- The nearest whole number. -/
def Dyadic.nearestWhole (x : Dyadic) : Nat :=
  match x.exponent with
  | .ofNat n => x.mantissa * Nat.pow 2 n
  | .negSucc n => (x.mantissa + Nat.pow 2 n) / Nat.pow 2 (n + 1)

/-- The largest number in a word of 64 bits. -/
def largestWord : Nat := UInt64.size - 1

/-- The nearest whole number that a word of 64 bits holds. -/
def Reading.toWord : Reading → Nat
  | .nan => 0
  | .infinite negative => if negative then 0 else largestWord
  | .zero _ => 0
  | .finite negative x => if negative then 0 else min x.nearestWhole largestWord

end VolumePricing.Decimal
