import VolumePricing.Decimal.Stepwise
import VolumePricing.Json.Reader

/-!
# Scanning bytes as JSON

A scanner reads JSON from bytes that need not be text throughout. It may fail,
and then whatever it has consumed stays consumed, so one that tries something
may go on behind it. Three kinds of scanning differ in what they ask of the
text: passing over a value asks for its shape alone, taking its content also
asks that its strings and numbers denote something, and only reading a string
yields its text.
-/

namespace VolumePricing.Json

abbrev Scan (α : Type) := OptionT (StateM (List UInt8)) α

namespace Scan

open Decimal

def charOf (b : UInt8) : Char := Char.ofNat b.toNat

/-- The next byte, which stays. -/
def peek? : Scan (Option Char) := do return (← get).head?.map charOf

def drop : Scan Unit := modify (List.drop 1)

/-- The next byte, which has to be there. -/
def next : Scan Char := do
  let some c ← peek? | failure
  drop
  return c

/-- Tells whether a scanner succeeded. -/
def attempt {α : Type} (s : Scan α) : Scan (Option α) := fun bytes =>
  let (a, rest) := s.run bytes
  (some a, rest)

/-- The second scanner runs whether or not the first one succeeds; both have to. -/
def closing {α : Type} (s : Scan α) (close : Scan Unit) : Scan α := do
  let a ← attempt s
  close
  let some a := a | failure
  return a

/-- The next byte that is no space, which stays. -/
def peekSolid? : Scan (Option Char) := do
  modify (List.dropWhile fun b => isSpace (charOf b))
  peek?

/-- The given character comes next, spaces aside. -/
def expect (c : Char) : Scan Unit := do
  if (← peekSolid?) = some c then drop else failure

/-- The rest of a word whose first letter is read. -/
def word : List Char → Scan Unit
  | [] => return ()
  | c :: cs => do if (← next) = c then word cs else failure

/-- Four hexadecimal digits; four bytes are consumed in any case. -/
def unit : Scan Nat := do
  let digits := (← get).take 4
  modify (List.drop 4)
  match digits.map charOf with
  | [a, b, c, d] => (unit? a b c d).elim failure pure
  | _ => failure

/-- The bytes of the character with that number. -/
def utf8 (n : Nat) : List UInt8 := (String.singleton (Char.ofNat n)).toUTF8.toList

/-- The character of an escape with a unit that begins a pair: another unit has to end it. -/
def secondUnit (high : Nat) : Scan (List UInt8) := do
  if (← next) ≠ '\\' then failure
  if (← next) ≠ 'u' then failure
  let low ← unit
  if isLowSurrogate low then return utf8 (0x10000 + (high - 0xD800) * 0x400 + (low - 0xDC00))
  else failure

/-- An escape, whose backslash is read. A unit of a pair stands for nothing by itself, which
matters only where the string has to denote something. -/
def escape (denoting : Bool) : Scan (List UInt8) := do
  let c ← next
  if c = 'u' then
    let n ← unit
    if !denoting then return []
    else if isLowSurrogate n then failure
    else if isHighSurrogate n then secondUnit n
    else return utf8 n
  else
    match escaped? c with
    | some c => return utf8 c.toNat
    | none => failure

/-- The bytes of a string up to its closing quote; the opening one is read. -/
def bytes (denoting : Bool) : Nat → Scan (List UInt8)
  | 0 => failure
  | fuel + 1 => do
    let some b := (← get).head? | failure
    drop
    if charOf b = '"' then return []
    else if charOf b = '\\' then return (← escape denoting) ++ (← bytes denoting fuel)
    else if b < 0x20 then failure
    else return b :: (← bytes denoting fuel)

/-- A string, whose opening quote is read. It is over before its bytes are found to be no text. -/
def string : Scan String := do
  let bytes ← bytes true ((← get).length + 1)
  match String.fromUTF8? ⟨bytes.toArray⟩ with
  | some s => return s
  | none => failure

/-- A string that is passed over. -/
def skipString : Scan Unit := do let _ ← bytes false ((← get).length + 1)

def isDigit (b : UInt8) : Bool := (charOf b).isDigit

/-- The digits that come next. -/
def digits : Scan (List Char) := do
  let ds := (← get).takeWhile isDigit
  modify (List.drop ds.length)
  return ds.map charOf

/-- The digits of a whole part, which has no leading zero. -/
def whole : Scan (List Char) := do
  let c ← next
  if !c.isDigit then failure
  else if c = '0' then
    if (← peek?).any Char.isDigit then failure else return [c]
  else return c :: (← digits)

/-- The digits behind a point, if there is one. -/
def fraction : Scan (List Char) := do
  if (← peek?) = some '.' then
    drop
    let ds ← digits
    if ds.isEmpty then failure else return ds
  else return []

/-- The largest power of ten that is read to its end. -/
def powerLimit : Nat := 2147483647

/-- The further digits of a power of ten. Where a power beyond the limit cannot be, the
reading stops at the digit that leads beyond. -/
def power (stops : Bool) (n : Nat) : Nat → Scan Nat
  | 0 => failure
  | fuel + 1 => do
    let some c ← peek? | return n
    if !c.isDigit then return n
    drop
    let more := 10 * n + digitValue c
    if stops && powerLimit < more then failure else power stops more fuel

/-- The power of ten behind an exponent mark, if there is one. -/
def exponent (nonzero : Bool) : Scan (Option Int) := do
  let mark ← peek?
  if mark = some 'e' || mark = some 'E' then
    drop
    let sign ← peek?
    if sign = some '+' || sign = some '-' then drop
    let c ← next
    if !c.isDigit then failure
    let n ← power (nonzero && sign ≠ some '-') (digitValue c) ((← get).length + 1)
    return some (if sign = some '-' then -n else n)
  else return none

/-- The parts of a number: whether it has a minus, its digits and its power of ten. -/
def parts (denoting : Bool) : Scan (Bool × List Char × List Char × Option Int) := do
  let negative := (← peek?) = some '-'
  if negative then drop
  let whole ← whole
  let fraction ← fraction
  let nonzero := (absorb (absorb 0 whole).1 fraction).1 ≠ 0
  return (negative, whole, fraction, ← exponent (denoting && nonzero))

/-- A number within the range of doubles. -/
def number : Scan Json := do
  let (negative, whole, fraction, power) ← parts true
  match ofNumeral .stepwise negative whole fraction power with
  | .unreadable => failure
  | j => return j

/-- A number that is passed over. -/
def skipNumber : Scan Unit := do let _ ← parts false

def isNumberStart (c : Char) : Bool := c = '-' || c.isDigit

/-- The end of an array whose items are over. A comma there is consumed. -/
def closeArray : Scan Unit := do
  let c ← peekSolid?
  if c = some ']' then drop
  else
    if c = some ',' then
      drop
      let _ ← peekSolid?
    failure

/-- The end of an object whose members are over. -/
def closeObject : Scan Unit := expect '\x7d'

/-- Another item comes; `first` says that none has come yet. -/
def hasItem (first : Bool) : Scan Bool := do
  let some c ← peekSolid? | failure
  if c = ']' then return false
  else if first then return true
  else if c = ',' then
    drop
    let some c ← peekSolid? | failure
    if c = ']' then failure else return true
  else failure

/-- Another member comes, of which the opening quote is consumed. -/
def hasMember (first : Bool) : Scan Bool := do
  let some c ← peekSolid? | failure
  if c = '\x7d' then return false
  else if first then
    if c = '"' then drop; return true else failure
  else if c = ',' then
    drop
    if (← peekSolid?) = some '"' then drop; return true else failure
  else failure

mutual

/-- Passes over a value. -/
def skip : Nat → Scan Unit
  | 0 => failure
  | fuel + 1 => do
    let some c ← peekSolid? | failure
    if isNumberStart c then skipNumber
    else
      drop
      match c with
      | 'n' => word ['u', 'l', 'l']
      | 't' => word ['r', 'u', 'e']
      | 'f' => word ['a', 'l', 's', 'e']
      | '"' => skipString
      | '[' => skipItems fuel true
      | '\x7b' => skipMembers fuel true
      | _ => failure

def skipItems : Nat → Bool → Scan Unit
  | 0, _ => failure
  | fuel + 1, first => do
    if ← hasItem first then
      skip fuel
      skipItems fuel false
    else closeArray

def skipMembers : Nat → Bool → Scan Unit
  | 0, _ => failure
  | fuel + 1, first => do
    if ← hasMember first then
      skipString
      expect ':'
      skip fuel
      skipMembers fuel false
    else closeObject

end

mutual

/-- The content of a value, arrays and objects at most so deep. -/
def content : Nat → Nat → Scan Json
  | 0, _ => failure
  | fuel + 1, depth => do
    let some c ← peekSolid? | failure
    if isNumberStart c then number
    else
      match c, depth with
      | 'n', _ => do drop; word ['u', 'l', 'l']; return .null
      | 't', _ => do drop; word ['r', 'u', 'e']; return .bool true
      | 'f', _ => do drop; word ['a', 'l', 's', 'e']; return .bool false
      | '"', _ => do drop; return .string (← string)
      | '[', depth + 1 => do
        drop
        return .array (← closing (items fuel depth true) closeArray)
      | '\x7b', depth + 1 => do
        drop
        return .object (← closing (members fuel depth true) closeObject)
      | _, _ => failure

def items : Nat → Nat → Bool → Scan (List Json)
  | 0, _, _ => failure
  | fuel + 1, depth, first => do
    if ← hasItem first then
      let j ← content fuel depth
      return j :: (← items fuel depth false)
    else return []

def members : Nat → Nat → Bool → Scan (List (String × Json))
  | 0, _, _ => failure
  | fuel + 1, depth, first => do
    if ← hasMember first then
      let name ← string
      expect ':'
      let j ← content fuel depth
      return (name, j) :: (← members fuel depth false)
    else return []

end

/-- Works through the members of an object, whose brace is read. -/
def foldMembers {α : Type} (f : String → α → Scan α) : Nat → Bool → α → Scan α
  | 0, _, _ => failure
  | fuel + 1, first, a => do
    if ← hasMember first then
      let name ← string
      expect ':'
      foldMembers f fuel false (← f name a)
    else
      closeObject
      return a

/-- Works through the members of the object that the bytes hold, and nothing else. -/
def ofObject? {α : Type} (f : String → α → Scan α) (a : α) (bytes : List UInt8) : Option α :=
  let scan : Scan α := do
    expect '\x7b'
    let a ← foldMembers f (bytes.length + 1) true a
    if (← peekSolid?).isNone then return a else failure
  (scan.run bytes).1

/-- How many arrays and objects may stand inside one another in the outermost object. -/
def depthLimit : Nat := 126

end Scan

end VolumePricing.Json
