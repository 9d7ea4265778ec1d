import VolumePricing.Pattern.Basic

/-!
# Classes of characters in brackets

A class is a row of characters, ranges and further classes, or one row less
another, or what two rows have in common or only one of them has. A bracket or
dashes at its start stand for themselves.
-/

namespace VolumePricing.Pattern

/-- The classes that have a name between colons. -/
def classNames : List String :=
  ["alnum", "alpha", "ascii", "blank", "cntrl", "digit", "graph", "lower", "print", "punct",
   "space", "upper", "word", "xdigit"]

/-- A class with a name, whether it is what is outside of it, and the rest. -/
def namedClass? : List Char → Option (Bool × List Char)
  | '[' :: ':' :: cs =>
    let negated := cs.head? = some '^'
    let cs := if negated then cs.drop 1 else cs
    let name := String.ofList (cs.takeWhile (· ≠ ':'))
    match cs.dropWhile (· ≠ ':') with
    | ':' :: ']' :: rest => if classNames.contains name then some (negated, rest) else none
    | _ => none
  | _ => none

/-- A class with a name holds letters, and what is outside of it is more than ASCII. -/
def Flags.allowNamed (f : Flags) (negated : Bool) : Bool := if f.wide then !f.caseless else !negated

/-- The character behind a dash, which comes next. A comment counts only by the sign that begins
it. -/
def behindDash (f : Flags) (cs : List Char) : Option Char :=
  if f.spaced then
    match (cs.drop 1).dropWhile Text.isBlankChar with
    | '#' :: cs => (cs.dropWhile Text.isBlankChar).head?
    | cs => cs.head?
  else (cs.drop 1).head?

/-- One end of a range. -/
def classAtom : Reader Atom := do
  let some c ← peek? | failure
  let a ← if c = '\\' then escape else do
    drop 1
    pure (.literal c false)
  require ((← flags).allowInClass a)
  return a

/-- A part of a class, or a range of characters. -/
def range : Reader Unit := do
  let first ← classAtom
  skipSpace
  let cs ← rest
  let behind := behindDash (← flags) cs
  if cs.head? = some '-' && behind ≠ some ']' && behind ≠ some '-' then
    next
    match first, ← classAtom with
    | .literal a _, .literal b _ => require (a.toNat ≤ b.toNat)
    | _, _ => failure

/-- Dashes that stand for themselves; `found` says that there has been one. -/
def dashes : Nat → Bool → Reader Bool
  | 0, _ => failure
  | fuel + 1, found => do
    if (← peek?) = some '-' then
      next
      dashes fuel true
    else return found

/-- Two rows of a class. -/
def combined (left : Option Shape) (right : Shape) : Shape :=
  match left with
  | none => right
  | some left => .node [left, right]

mutual

/-- A class from its bracket on. -/
def bracket : Nat → Reader Shape
  | 0 => failure
  | fuel + 1 => do
    let f ← flags
    next
    if (← peek?) = some '^' then
      require f.wide
      next
    let dashed ← dashes ((← rest).length + 1) false
    let closed ← if !dashed && (← peek?) = some ']' then do
        next
        pure true
      else pure false
    if dashed || closed then require (f.allowInClass (.literal '-' false))
    let started := if dashed || closed then [Shape.leaf] else []
    return .node [← bracketRow fuel none started]

/-- The rest of a class, with what comes before a sign between rows, and the row so far. -/
def bracketRow : Nat → Option Shape → List Shape → Reader Shape
  | 0, _, _ => failure
  | fuel + 1, left, row => do
    skipSpace
    let cs ← rest
    match cs with
    | [] => failure
    | ']' :: _ => do
      drop 1
      return combined left (.ofList row)
    | '[' :: _ => do
      match namedClass? cs with
      | some (negated, behind) => do
        require ((← flags).allowNamed negated)
        modify fun s => { s with rest := behind }
        bracketRow fuel left (.leaf :: row)
      | none => do
        let inner ← bracket fuel
        bracketRow fuel left (inner :: row)
    | c :: cs =>
      if cs.head? = some c && "&-~".toList.contains c then do
        drop 2
        bracketRow fuel (some (combined left (.ofList row))) []
      else do
        range
        bracketRow fuel left (.leaf :: row)

end

end VolumePricing.Pattern
