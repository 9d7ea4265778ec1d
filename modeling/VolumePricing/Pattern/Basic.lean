import VolumePricing.Text.Blank
import VolumePricing.Text.Category
import VolumePricing.Text.Hex

/-!
# Patterns of values

A pattern describes texts by characters, classes of characters, repetitions and
groups. What it may contain depends on flags, which it sets itself for the rest of
a group: no table of the characters beyond ASCII is at hand, so letters of either
case and classes such as that of the digits exist only where texts are read as
bytes, and there nothing may be described that is no text.
-/

namespace VolumePricing.Pattern

structure Flags where
  /-- Characters are those of Unicode, not bytes. -/
  wide : Bool := true
  /-- Letters stand for either case. -/
  caseless : Bool := false
  /-- Spaces do not count, and comments may stand between the parts. -/
  spaced : Bool := false
  deriving DecidableEq, Repr

/-- The smallest parts of a pattern. -/
inductive Atom
  /-- A character, maybe by the two digits of its number. -/
  | literal (c : Char) (isByte : Bool)
  | any
  /-- A class that has a letter, or what is outside of it. -/
  | named (negated : Bool)
  /-- The start or the end of a line or a text. -/
  | anchor
  /-- The edge of a word, or what is none. -/
  | edge
  deriving DecidableEq, Repr

/-- The part may stand by itself. -/
def Flags.allow (f : Flags) : Atom → Bool
  | .literal c isByte => if f.wide then !f.caseless else !isByte || c.toNat < 0x80
  | .any => f.wide
  | .named negated => !f.wide && !negated
  | .anchor => true
  | .edge => !f.wide

/-- The part may stand in a class. -/
def Flags.allowInClass (f : Flags) : Atom → Bool
  | .literal c _ => if f.wide then !f.caseless else c.toNat < 0x80
  | .named negated => !f.wide && !negated
  | _ => false

/-- What is inside what in a pattern. -/
inductive Shape
  | leaf
  | node (parts : List Shape)

namespace Shape

/-- Several parts make up a whole of its own. -/
def ofList : List Shape → Shape
  | [] => leaf
  | [s] => s
  | ss => node ss

mutual

def depth : Shape → Nat
  | leaf => 0
  | node parts => depthOfParts parts + 1

def depthOfParts : List Shape → Nat
  | [] => 0
  | s :: ss => max s.depth (depthOfParts ss)

end

@[simp] theorem ofList_singleton (s : Shape) : ofList [s] = s := rfl

end Shape

structure State where
  rest : List Char
  flags : Flags := {}
  /-- The names that groups have. -/
  names : List (List Char) := []

abbrev Reader (α : Type) := StateT State Option α

def rest : Reader (List Char) := return (← get).rest

def peek? : Reader (Option Char) := return (← rest).head?

def flags : Reader Flags := return (← get).flags

def require (b : Bool) : Reader Unit := if b then return () else failure

def drop (n : Nat) : Reader Unit := modify fun s => { s with rest := s.rest.drop n }

/-- The rest behind spaces and comments. -/
def behindSpace : Nat → List Char → List Char
  | 0, cs => cs
  | fuel + 1, cs =>
    match cs.dropWhile Text.isBlankChar with
    | '#' :: cs => behindSpace fuel ((cs.dropWhile (· ≠ '\n')).drop 1)
    | cs => cs

/-- Passes over spaces and comments, where they do not count. -/
def skipSpace : Reader Unit :=
  modify fun s =>
    if s.flags.spaced then { s with rest := behindSpace (s.rest.length + 1) s.rest } else s

/-- Passes over a character and spaces, behind which the pattern may not end. -/
def next : Reader Unit := do
  drop 1
  skipSpace
  require (← peek?).isSome

/-- Hexadecimal digits, with the spaces between them. -/
def digits : Nat → Reader (List Nat)
  | 0 => return []
  | count + 1 => do
    let some c ← peek? | failure
    let some d := Text.hexValue? c | failure
    drop 1
    skipSpace
    return d.val :: (← digits count)

/-- A character by its number, whose letter comes next. -/
def coded (count : Nat) : Reader Atom := do
  next
  let n := (← digits count).foldl (fun n d => 16 * n + d) 0
  require n.isValidChar
  return .literal (Char.ofNat n) (count = 2)

/-- What begins with a backslash, which comes next. -/
def escape : Reader Atom := do
  drop 1
  let some c ← peek? | failure
  match c with
  | 'x' => coded 2
  | 'u' => coded 4
  | 'U' => coded 8
  | _ => do
    drop 1
    if "dsw".toList.contains c then return .named false
    else if "DSW".toList.contains c then return .named true
    else if "bB<>".toList.contains c then return .edge
    else if "Az".toList.contains c then return .anchor
    else
      require ("aftnrv".toList.contains c || (!c.isAlphanum && c.toNat < 0x80))
      return .literal c false

end VolumePricing.Pattern
