import VolumePricing.Decimal.Shortest

/-!
# Writing doubles

Two layouts of the same shortest digits. The plain layout is used in prose: it
never shows an exponent, drops an empty fraction and lets a tie go up. The data
layout always shows that the number is not an integer, turns to an exponent for
very large and very small magnitudes, and lets a tie go to the even digit.
-/

namespace VolumePricing.Decimal

def zeros (n : Nat) : String := String.ofList (List.replicate n '0')

/-- Digits with a point where the exponent puts it; no point when there is no fraction. -/
def Scaled.positional (s : Scaled) : String :=
  let ds := (Nat.toDigits 10 s.digits)
  match s.exponent with
  | .ofNat n => String.ofList ds ++ zeros n
  | .negSucc n =>
    let places := n + 1
    if places < ds.length then
      String.ofList (ds.take (ds.length - places)) ++ "." ++ String.ofList (ds.drop (ds.length - places))
    else "0." ++ zeros (places - ds.length) ++ String.ofList ds

def signed (negative : Bool) (text : String) : String :=
  if negative then "-" ++ text else text

/-- The layout of prose. -/
def plainText (x : Float) : String :=
  match Reading.of x with
  | .nan => "NaN"
  | .infinite negative => signed negative "inf"
  | .zero negative => signed negative "0"
  | .finite negative magnitude => signed negative (magnitude.shortest .up).positional

/-- The layout of data, for a positive number. -/
def Scaled.data (s : Scaled) : String :=
  let ds := Nat.toDigits 10 s.digits
  let point : Int := ds.length + s.exponent
  if -5 < point ∧ point ≤ 16 then
    if 0 ≤ s.exponent then s.positional ++ ".0" else s.positional
  else
    let head := String.ofList (ds.take 1)
    let tail := if ds.length = 1 then "" else "." ++ String.ofList (ds.drop 1)
    head ++ tail ++ "e" ++ (if 0 < point then "+" else "") ++ toString (point - 1)

/-- The layout of data; a number that is not finite has none. -/
def dataText? (x : Float) : Option String :=
  match Reading.of x with
  | .nan => none
  | .infinite _ => none
  | .zero negative => some (signed negative "0.0")
  | .finite negative magnitude => some (signed negative (magnitude.shortest .toEven).data)

end VolumePricing.Decimal
