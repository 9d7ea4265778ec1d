import VolumePricing.Decimal.Shortest

/-!
# Reading numerals

A numeral is scanned into a sign, a whole number of digits and a power of ten;
its value is the nearest double. Scanning works on the remaining characters, so
that every reader of numerals, whatever may surround them, shares it.
-/

namespace VolumePricing.Decimal

def digitValue (c : Char) : Nat := c.toNat - '0'.toNat

def digitsValue (ds : List Char) : Nat :=
  ds.foldl (fun n c => 10 * n + digitValue c) 0

/-- The nearest double to `digits * 10 ^ exponent`, which is infinite beyond the range of doubles. -/
def nearest (digits : Nat) (exponent : Int) : Float :=
  .ofModel (.ofScientific digits exponent)

/-- The nearest number of single precision to it. -/
def nearestSingle (digits : Nat) (exponent : Int) : Float :=
  (Float32.ofModel (.ofScientific digits exponent)).toFloat

def nearestSigned (negative : Bool) (digits : Nat) (exponent : Int) : Float :=
  if negative then -nearest digits exponent else nearest digits exponent

/-- An unsigned numeral: whole digits, fraction digits and a power of ten. -/
structure Numeral where
  whole : List Char
  fraction : List Char
  power : Int

def Numeral.digits (n : Numeral) : Nat := digitsValue (n.whole ++ n.fraction)

def Numeral.exponent (n : Numeral) : Int := n.power - n.fraction.length

def Numeral.value (n : Numeral) (negative : Bool) : Float :=
  nearestSigned negative n.digits n.exponent

def Numeral.single (n : Numeral) (negative : Bool) : Float :=
  let x := nearestSingle n.digits n.exponent
  if negative then -x else x

/-- The leading digits and the rest. -/
def spanDigits (cs : List Char) : List Char × List Char :=
  (cs.takeWhile Char.isDigit, cs.dropWhile Char.isDigit)

/-- A sign before a numeral; `true` means minus. -/
def spanSign : List Char → Bool × List Char
  | '-' :: cs => (true, cs)
  | '+' :: cs => (false, cs)
  | cs => (false, cs)

/-- The power of ten after an exponent mark, which needs at least one digit. -/
def exponent? (cs : List Char) : Option (Int × List Char) :=
  let (negative, rest) := spanSign cs
  match spanDigits rest with
  | ([], _) => none
  | (ds, rest) => some (if negative then -(digitsValue ds : Int) else digitsValue ds, rest)

/-- A whole number within the given bounds: an optional sign and at least one digit.
A minus sign is read only where negative numbers exist. -/
def wholeNumber? (low high : Int) (cs : List Char) : Option Int :=
  let signed : Option (Bool × List Char) :=
    match cs with
    | '+' :: rest => some (false, rest)
    | '-' :: rest => if low < 0 then some (true, rest) else none
    | rest => some (false, rest)
  match signed with
  | none => none
  | some (negative, rest) =>
    match spanDigits rest with
    | ([], _) => none
    | (ds, []) =>
      let n : Int := if negative then -(digitsValue ds : Int) else digitsValue ds
      if low ≤ n ∧ n ≤ high then some n else none
    | (_, _ :: _) => none

/-- Digits with an optional point on either side and an optional power of ten, behind a sign. -/
def plainNumeral? (cs : List Char) : Option (Bool × Numeral) :=
  let (negative, cs) := spanSign cs
  let (whole, rest) := spanDigits cs
  let (fraction, rest) :=
    match rest with
    | '.' :: rest => spanDigits rest
    | rest => ([], rest)
  if whole.isEmpty && fraction.isEmpty then none
  else
    match rest with
    | [] => some (negative, ⟨whole, fraction, 0⟩)
    | c :: rest =>
      if c = 'e' ∨ c = 'E' then
        match exponent? rest with
        | some (power, []) => some (negative, ⟨whole, fraction, power⟩)
        | some (_, _ :: _) => none
        | none => none
      else none

/-- A double written by hand: a numeral, or one of the words for infinity and not-a-number. -/
def freeNumber? (text : String) : Option Float :=
  let (negative, cs) := spanSign text.toList
  let word := cs.map Char.toLower
  if word = "inf".toList ∨ word = "infinity".toList then
    some (if negative then -(1.0 / 0.0) else 1.0 / 0.0)
  else if word = "nan".toList then some (0.0 / 0.0)
  else (plainNumeral? text.toList).map fun (negative, n) => n.value negative

end VolumePricing.Decimal
