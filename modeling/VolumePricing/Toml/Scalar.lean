import VolumePricing.Decimal.Layout
import VolumePricing.Decimal.Stepwise
import VolumePricing.Settings.Value
import VolumePricing.Text.Hex
import VolumePricing.Text.Split

/-!
# Numbers, switches and dates in TOML

Digits may be grouped by single underscores. A number without a point or an
exponent is an integer of 64 bits. A date has to exist in the calendar; it is
kept as the text of its normal form.
-/

namespace VolumePricing.Toml

/-- The digits of a number whose underscores stand between digits. -/
def grouped? (isDigit : Char → Bool) (cs : List Char) : Option (List Char) :=
  let groups := Text.splitAll '_' cs
  if groups.all fun g => !g.isEmpty && g.all isDigit then some groups.flatten else none

/-- Decimal digits without a leading zero. -/
def wholeDigits? (cs : List Char) : Option (List Char) :=
  match grouped? Char.isDigit cs with
  | some ('0' :: _ :: _) => none
  | ds => ds

def digitsIn (base : Nat) (cs : List Char) : Nat :=
  cs.foldl (fun n c => base * n + ((Text.hexValue? c).map (·.val)).getD 0) 0

def isBaseDigit (base : Nat) (c : Char) : Bool :=
  match Text.hexValue? c with
  | some d => d.val < base
  | none => false

def based? (base : Nat) (cs : List Char) : Option Nat :=
  (grouped? (isBaseDigit base) cs).map (digitsIn base)

def within64? (n : Int) : Option Setting :=
  if Int64.minValue.toInt ≤ n ∧ n ≤ Int64.maxValue.toInt then some (.int n) else none

def integer? (cs : List Char) : Option Setting :=
  match cs with
  | '0' :: 'x' :: ds => (based? 16 ds).bind fun n => within64? n
  | '0' :: 'o' :: ds => (based? 8 ds).bind fun n => within64? n
  | '0' :: 'b' :: ds => (based? 2 ds).bind fun n => within64? n
  | _ =>
    let (negative, ds) := Decimal.spanSign cs
    (wholeDigits? ds).bind fun ds =>
      let n : Int := Decimal.digitsValue ds
      within64? (if negative then -n else n)

/-- A power of ten, in which leading zeros do no harm. -/
def power? (cs : List Char) : Option Int :=
  let (negative, ds) := Decimal.spanSign cs
  (grouped? Char.isDigit ds).map fun ds =>
    let n : Int := Decimal.digitsValue ds
    if negative then -n else n

def isExponentMark (c : Char) : Bool := c = 'e' || c = 'E'

/-- A number with a point or a power of ten, which has to be within the range of doubles, or
one of the words for what is no number. -/
def fractional? (cs : List Char) : Option Setting := do
  let (negative, rest) := Decimal.spanSign cs
  if rest = "inf".toList then return .real (if negative then -(1.0 / 0.0) else 1.0 / 0.0)
  if rest = "nan".toList then return .real (0.0 / 0.0)
  if !rest.any fun c => c = '.' || isExponentMark c then none
  let mantissa := rest.takeWhile fun c => !isExponentMark c
  let power ←
    match rest.dropWhile fun c => !isExponentMark c with
    | [] => some 0
    | _ :: ds => power? ds
  let whole ← wholeDigits? (mantissa.takeWhile (· ≠ '.'))
  let fraction ←
    match mantissa.dropWhile (· ≠ '.') with
    | [] => some []
    | _ :: ds => grouped? Char.isDigit ds
  (Decimal.Numeral.finite? ⟨whole, fraction, power⟩ negative .nearest).map .real

/-- A number of exactly so many digits. -/
def exactly? (count : Nat) (cs : List Char) : Option Nat :=
  if cs.length = count && cs.all Char.isDigit then some (Decimal.digitsValue cs) else none

def isLeap (year : Nat) : Bool := (year % 4 = 0 && year % 100 ≠ 0) || year % 400 = 0

def daysIn (year month : Nat) : Nat :=
  if month = 2 then if isLeap year then 29 else 28
  else if month = 4 || month = 6 || month = 9 || month = 11 then 30
  else 31

def isDate (cs : List Char) : Bool :=
  match (Text.splitAll '-' cs).zip [4, 2, 2] |>.mapM fun (ds, n) => exactly? n ds with
  | some [year, month, day] =>
    cs.length = 10 && 1 ≤ month && month ≤ 12 && 1 ≤ day && day ≤ daysIn year month
  | _ => false

/-- The clock part of a date: hours, minutes, seconds and a fraction of them, of which nine
places count and zeros at the end are not written. -/
def clock? (cs : List Char) : Option (List Char) := do
  let fields := Text.splitAll ':' (cs.takeWhile (· ≠ '.'))
  let fraction := (cs.dropWhile (· ≠ '.')).drop 1
  let pointed := cs.any (· = '.')
  match ← fields.mapM (exactly? 2) with
  | [hour, minute] => if hour < 24 && minute < 60 && !pointed then some cs else none
  | [hour, minute, second] =>
    if hour < 24 && minute < 60 && second ≤ 60 then
      if !pointed then some cs
      else if fraction.isEmpty || !fraction.all Char.isDigit then none
      else
        let kept := ((fraction.take 9).reverse.dropWhile (· = '0')).reverse
        some (cs.takeWhile (· ≠ '.') ++ '.' :: (if kept.isEmpty then ['0'] else kept))
    else none
  | _ => none

/-- The clock part and how far it is ahead of the meridian, if that is said. -/
def clockWithOffset? (cs : List Char) : Option (List Char) :=
  let clock := cs.takeWhile fun c => c ≠ 'Z' && c ≠ 'z' && c ≠ '+' && c ≠ '-'
  match cs.drop clock.length with
  | [] => clock? clock
  | sign :: rest =>
    if sign = 'Z' || sign = 'z' then
      if rest.isEmpty then (clock? clock).map (· ++ ['Z']) else none
    else
      match (Text.splitAll ':' rest).mapM (exactly? 2) with
      | some [hour, minute] =>
        let sign := if hour = 0 && minute = 0 then '+' else sign
        if hour < 24 && minute < 60 then (clock? clock).map (· ++ sign :: rest) else none
      | _ => none

def isDateSeparator (c : Char) : Bool := c = 'T' || c = 't' || c = ' '

def moment? (cs : List Char) : Option Setting :=
  let text (cs : List Char) : Setting := .text (String.ofList cs)
  if isDate (cs.take 10) then
    match cs.drop 10 with
    | [] => some (text cs)
    | c :: rest =>
      if isDateSeparator c then
        (clockWithOffset? rest).map fun clock => text (cs.take 10 ++ 'T' :: clock)
      else none
  else (clock? cs).map text

/-- The value of a bare word. -/
def scalar? (cs : List Char) : Option Setting :=
  if cs = "true".toList then some (.bool true)
  else if cs = "false".toList then some (.bool false)
  else ((integer? cs).or (fractional? cs)).or (moment? cs)

end VolumePricing.Toml
