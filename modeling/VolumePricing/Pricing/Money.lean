import VolumePricing.Tier.Basic
import VolumePricing.Decimal.Layout
import VolumePricing.Decimal.Shortest

/-!
# Amounts and formulas in words

An amount in pesos has its cents after a comma and its units in groups of three
with points between them. The sign is shown only when there is a cent to owe.
-/

namespace VolumePricing.Money

/-- The amount in cents, a half rounded up; at most what 64 bits hold. -/
def cents (amount : Float) : Nat := (Decimal.Reading.of (amount.abs * 100.0)).toWord

/-- A point before every group of three digits, counted from the end. -/
def grouped : List Char → List Char
  | [] => []
  | d :: ds =>
    if ds.length % 3 = 0 ∧ ds ≠ [] then d :: '.' :: grouped ds else d :: grouped ds

def twoDigits (n : Nat) : List Char := [Nat.digitChar (n / 10), Nat.digitChar (n % 10)]

def isNegative (amount : Float) : Bool := amount < 0.0 && 0 < cents amount

def text (amount : Float) : String :=
  let n := cents amount
  let units := grouped (Nat.toDigits 10 (n / 100))
  let sign := if isNegative amount then ['-'] else []
  String.ofList (sign ++ ['$', ' '] ++ units ++ [','] ++ twoDigits (n % 100))

end VolumePricing.Money

namespace VolumePricing

/-- The formula as shown to staff. -/
def PriceTier.formulaDescription (t : PriceTier) : String :=
  match t.formula with
  | .multiplier => "Cost × " ++ Decimal.plainText t.multiplier
  | .percentageMarkup => "Cost + " ++ Decimal.plainText t.percentage ++ "%"
  | .flatAmount => "Cost + $" ++ Decimal.plainText t.flatAmount
  | .other _ => "Unknown formula"

end VolumePricing
