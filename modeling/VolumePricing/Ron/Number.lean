import VolumePricing.Ron.Scalar
import VolumePricing.Settings.Value

/-!
# Numbers in RON

A number is whole, in one of four bases, or has a point or a power of ten. Behind
it may stand the type that it has, which bounds it. Two points between numbers
make a range.
-/

namespace VolumePricing.Ron

def isSign (c : Char) : Bool := c = '+' || c = '-'

/-- The characters that whole numbers are made of. -/
def isWholeChar (c : Char) : Bool := (Text.hexValue? c).isSome || c = '_'

/-- The characters that other numbers are made of. -/
def isRealChar (c : Char) : Bool := c.isDigit || "eE.+-_".toList.contains c

/-- The characters of a number that may not be whole, up to two points. -/
def realChars : List Char → List Char
  | [] => []
  | '.' :: '.' :: _ => []
  | c :: cs => if isRealChar c then c :: realChars cs else []

/-- A type that may stand behind a whole number, by its bounds. -/
def wholeTypes : List (String × Int × Int) :=
  [("i8", -0x80, 0x7f), ("i16", -0x8000, 0x7fff), ("i32", -0x80000000, 0x7fffffff),
   ("i64", -0x8000000000000000, 0x7fffffffffffffff), ("u8", 0, 0xff), ("u16", 0, 0xffff),
   ("u32", 0, 0xffffffff), ("u64", 0, 0xffffffffffffffff)]

/-- The value of digits in a base, which underscores may group. -/
def digitsIn? (base : Nat) (cs : List Char) : Option Nat := do
  if cs.head? = some '_' || cs.isEmpty then none
  let ds ← (cs.filter (· ≠ '_')).mapM Text.hexValue?
  if ds.any fun d => base ≤ d.val then none
  else some (ds.foldl (fun n d => base * n + d.val) 0)

/-- The base of a whole number, and its digits. -/
def base : List Char → Nat × List Char
  | '0' :: 'x' :: cs => (16, cs)
  | '0' :: 'o' :: cs => (8, cs)
  | '0' :: 'b' :: cs => (2, cs)
  | cs => (10, cs)

/-- The type behind the digits of a decimal or binary number. -/
def wholeType? (base : Nat) (cs : List Char) : Option ((Int × Int) × List Char) := do
  let (name, rest) ← name? cs
  let bounds ← wholeTypes.lookup name.text
  if name.isRaw || base = 8 || base = 16 then none else some (bounds, rest)

/-- The bounds of a number without a type. -/
def wideBounds (negative : Bool) : Int × Int :=
  if negative then (-0x8000000000000000, 0) else (0, 0xffffffffffffffff)

/-- A whole number within its bounds, without the sign, and the rest. -/
def whole? (negative : Bool) (cs : List Char) : Option (Int × List Char) := do
  let (base, digits) := base cs
  let ds := digits.takeWhile isWholeChar
  let n ← digitsIn? base ds
  let n : Int := if negative then -n else n
  let rest := digits.drop ds.length
  let ((low, high), rest) := (wholeType? base rest).getD (wideBounds negative, rest)
  if low ≤ n ∧ n ≤ high then some (n, rest) else none

/-- An underscore comes only behind a digit or an exponent mark. -/
def isGrouped : Bool → List Char → Bool
  | _, [] => true
  | allowed, '_' :: cs => allowed && isGrouped allowed cs
  | allowed, c :: cs => isGrouped ((allowed || c.isDigit || c = 'e' || c = 'E') && c ≠ '.') cs

/-- A number that may not be whole, with the type behind it. -/
def real? (cs : List Char) : Option (Float × List Char) := do
  let digits := realChars cs
  let rest := cs.drop digits.length
  if !isGrouped false digits then none
  let (negative, n) ← Decimal.plainNumeral? (digits.filter (· ≠ '_'))
  match name? rest with
  | some (⟨"f32", false⟩, rest) => return (n.single negative, rest)
  | some (⟨"f64", false⟩, rest) => return (n.value negative, rest)
  | _ => return (n.value negative, rest)

/-- The words for what is no finite number. -/
def words : List (String × Float) :=
  [("inf", 1.0 / 0.0), ("inff32", 1.0 / 0.0), ("inff64", 1.0 / 0.0), ("NaN", 0.0 / 0.0),
   ("NaNf32", 0.0 / 0.0), ("NaNf64", 0.0 / 0.0)]

def word? (cs : List Char) : Option (Float × List Char) := do
  let (name, rest) ← name? cs
  if name.isRaw then none
  let x ← words.lookup name.text
  return (x, rest)

/-- A whole number that is out of bounds, or is written with a power of ten, is read as one that
is not whole. -/
def number? (cs : List Char) : Option (Setting × List Char) :=
  let negative := cs.head? = some '-'
  let unsigned := if cs.head?.any isSign then cs.drop 1 else cs
  let reals := realChars unsigned
  if reals.isEmpty then
    (word? unsigned).map fun (x, rest) => (.real (if negative then -x else x), rest)
  else if (unsigned.takeWhile isWholeChar).length < reals.length then
    (real? cs).map fun (x, rest) => (.real x, rest)
  else
    match whole? negative unsigned with
    | some (n, rest) => some (.int n, rest)
    | none =>
      let (base, digits) := base unsigned
      let isTyped := (wholeType? base (digits.dropWhile isWholeChar)).isSome &&
        (digitsIn? base (digits.takeWhile isWholeChar)).isSome
      if base ≠ 10 || isTyped then none else (real? cs).map fun (x, rest) => (.real x, rest)

/-- A number or the points of a range may begin here. -/
def beginsNumber : List Char → Bool
  | c :: _ => isSign c || c = '.' || c.isDigit
  | [] => false

/-- The end of a range, if there is one. With an equals sign there has to be. -/
def rangeEnd? : List Char → Option (Option Setting × List Char)
  | '=' :: cs => (number? cs).map fun (n, rest) => (some n, rest)
  | cs =>
    if beginsNumber cs then (number? cs).map fun (n, rest) => (some n, rest) else some (none, cs)

/-- A range from its start on, if it has one. One without any bound is nothing. -/
def range? (start : Option Setting) (cs : List Char) : Option (Setting × List Char) := do
  let (last, rest) ← rangeEnd? cs
  let members := (start.map fun n => ("start", n)).toList ++ (last.map fun n => ("end", n)).toList
  return (if members.isEmpty then .nothing else .table members, rest)

/-- A number, or a range of numbers. -/
def numbers? (cs : List Char) : Option (Setting × List Char) := do
  match cs with
  | '.' :: '.' :: cs => range? none cs
  | cs =>
    let (n, rest) ← number? cs
    match rest with
    | '.' :: '.' :: rest => range? (some n) rest
    | rest => return (n, rest)

end VolumePricing.Ron
