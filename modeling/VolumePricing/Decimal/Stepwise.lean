import VolumePricing.Decimal.Numeral

/-!
# Numerals worked out in doubles

A reader in a hurry keeps as many digits as fit into 64 bits and scales them by
one power of ten, all in doubles. The result may be off the nearest double by a
little, and a numeral that leaves the range of doubles has no value. A patient
reader takes the nearest double.
-/

namespace VolumePricing.Decimal

/-- Takes digits into a significand as long as it fits into 64 bits; the rest stays. -/
def absorb (significand : Nat) : List Char → Nat × List Char
  | [] => (significand, [])
  | c :: cs =>
    let next := 10 * significand + digitValue c
    if next < UInt64.size then absorb next cs else (significand, c :: cs)

/-- Multiplies or divides by a power of ten; a very small power takes several divisions.
A product beyond the doubles is none. -/
def scaled? (x : Float) (exponent : Int) : Option Float :=
  if exponent < -308 then
    if x == 0.0 then some x else scaled? (x / Float.ofScientific 1 false 308) (exponent + 308)
  else if 308 < exponent then
    if x == 0.0 then some x else none
  else if exponent < 0 then some (x / Float.ofScientific 1 false (-exponent).toNat)
  else
    let y := x * Float.ofScientific 1 false exponent.toNat
    if y.isFinite then some y else none
termination_by (-exponent).toNat
decreasing_by omega

/-- The value in doubles throughout: digits that do not fit only count as places. -/
def Numeral.stepwise? (n : Numeral) (negative : Bool) : Option Float :=
  let (significand, left) := absorb 0 n.whole
  let (significand, dropped) := absorb significand n.fraction
  let kept := n.fraction.length - dropped.length
  (scaled? (Float.ofNat significand) (n.power + left.length - kept)).map fun x =>
    if negative then -x else x

/-- How the value of a numeral is worked out. -/
inductive Precision
  | nearest
  | stepwise
  deriving DecidableEq, Repr

/-- The value of a numeral within the range of doubles. -/
def Numeral.finite? (n : Numeral) (negative : Bool) : Precision → Option Float
  | .nearest =>
    let x := n.value negative
    if x.isFinite then some x else none
  | .stepwise => n.stepwise? negative

end VolumePricing.Decimal
