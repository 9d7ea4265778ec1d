import VolumePricing.Decimal.Layout
import VolumePricing.Decimal.Numeral

/-!
# Values of settings

A setting may come from a file that knows types or from a variable that knows
only text. So a value is converted to what is asked for where it makes sense: a
text that reads as a number is one, a switch counts as one or zero, and a
number has its text.
-/

namespace VolumePricing

inductive Setting where
  | nothing
  | bool (b : Bool)
  | int (n : Int)
  | real (x : Float)
  | text (s : String)
  | list (items : List Setting)
  | table (members : List (String × Setting))
  deriving Inhabited

namespace Setting

/-- A word that stands for a switch. -/
def switch? (s : String) : Option Bool :=
  let s := s.toLower
  if s = "true" || s = "on" || s = "yes" then some true
  else if s = "false" || s = "off" || s = "no" then some false
  else none

/-- The whole number between the bounds that a value stands for. Fractions are
rounded, a half away from zero, to a number between the widest bounds there are. -/
def whole? (low high : Int) : Setting → Option Int
  | .int n => if low ≤ n ∧ n ≤ high then some n else none
  | .bool b => some (if b then 1 else 0)
  | .real x => some (rounded x)
  | .text s =>
    match switch? s with
    | some b => some (if b then 1 else 0)
    | none => Decimal.wholeNumber? low high s.toList
  | _ => none
where
  rounded (x : Float) : Int := if low < 0 then x.round.toInt64.toInt else x.round.toUInt64.toNat

/-- A signed number of 64 bits. -/
def int64? (s : Setting) : Option Int64 :=
  (s.whole? Int64.minValue.toInt Int64.maxValue.toInt).map Int64.ofInt

/-- A number without a sign, of 64 bits at first and then below the given bound. -/
def nat? (bound : Nat) (s : Setting) : Option Nat :=
  (s.whole? 0 (UInt64.size - 1)).bind fun n => if n.toNat < bound then some n.toNat else none

def real? : Setting → Option Float
  | .real x => some x
  | .int n => some (.ofInt n)
  | .bool b => some (if b then 1.0 else 0.0)
  | .text s =>
    match switch? s with
    | some b => some (if b then 1.0 else 0.0)
    | none => Decimal.freeNumber? s
  | _ => none

def text? : Setting → Option String
  | .text s => some s
  | .bool b => some (if b then "true" else "false")
  | .int n => some (toString n)
  | .real x => some (Decimal.plainText x)
  | _ => none

end Setting

end VolumePricing
