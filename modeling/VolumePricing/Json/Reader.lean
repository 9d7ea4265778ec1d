import VolumePricing.Json.Basic
import VolumePricing.Decimal.Stepwise
import VolumePricing.Text.Hex

/-!
# Reading JSON

The reader works on the remaining characters and never fails: where the text
stops being JSON it leaves `cut` and gives up the rest. Surrogate pairs and the
range of numbers are settled after scanning, so a string or number that denotes
nothing does not hide the text behind it.
-/

namespace VolumePricing.Json

open Decimal

def isSpace (c : Char) : Bool := c = ' ' || c = '\n' || c = '\t' || c = '\r'

def skipSpace (cs : List Char) : List Char := cs.dropWhile isSpace

/-- A character of a string as written: itself, or one sixteen-bit unit. -/
inductive Piece
  | char (c : Char)
  | unit (u : Nat)

def unit? (a b c d : Char) : Option Nat := do
  let a ← Text.hexValue? a
  let b ← Text.hexValue? b
  let c ← Text.hexValue? c
  let d ← Text.hexValue? d
  return ((a.val * 16 + b.val) * 16 + c.val) * 16 + d.val

/-- The character after a backslash, when it stands for one. -/
def escaped? : Char → Option Char
  | '"' => some '"'
  | '\\' => some '\\'
  | '/' => some '/'
  | 'b' => some '\x08'
  | 'f' => some '\x0c'
  | 'n' => some '\n'
  | 'r' => some '\r'
  | 't' => some '\t'
  | _ => none

/-- The pieces up to the closing quote, and the rest. -/
def pieces? : List Char → Option (List Piece × List Char)
  | [] => none
  | '"' :: rest => some ([], rest)
  | '\\' :: 'u' :: a :: b :: c :: d :: rest => do
    let u ← unit? a b c d
    let (ps, rest) ← pieces? rest
    return (.unit u :: ps, rest)
  | '\\' :: c :: rest => do
    let c ← escaped? c
    let (ps, rest) ← pieces? rest
    return (.char c :: ps, rest)
  | c :: rest =>
    if c.toNat < 0x20 then none
    else do
      let (ps, rest) ← pieces? rest
      return (.char c :: ps, rest)

def isHighSurrogate (u : Nat) : Bool := decide (0xD800 ≤ u ∧ u < 0xDC00)

def isLowSurrogate (u : Nat) : Bool := decide (0xDC00 ≤ u ∧ u < 0xE000)

/-- Surrogates must come in pairs, the high one first. -/
def joined? : List Piece → Option (List Char)
  | [] => some []
  | .char c :: ps => (joined? ps).map (c :: ·)
  | .unit u :: .unit v :: ps =>
    if isHighSurrogate u then
      if isLowSurrogate v then
        (joined? ps).map (Char.ofNat (0x10000 + (u - 0xD800) * 0x400 + (v - 0xDC00)) :: ·)
      else none
    else if isLowSurrogate u then none
    else (joined? (.unit v :: ps)).map (Char.ofNat u :: ·)
  | .unit u :: ps =>
    if isHighSurrogate u || isLowSurrogate u then none
    else (joined? ps).map (Char.ofNat u :: ·)

/-- The digits of a whole part, which has no leading zero. -/
def whole? (cs : List Char) : Option (List Char × List Char) :=
  match spanDigits cs with
  | ([], _) => none
  | ('0' :: _ :: _, _) => none
  | (ds, rest) => some (ds, rest)

/-- The fraction digits after a point, when there is one. -/
def fraction? : List Char → Option (List Char × List Char)
  | '.' :: rest =>
    match spanDigits rest with
    | ([], _) => none
    | (ds, rest) => some (ds, rest)
  | rest => some ([], rest)

/-- The power of ten after an exponent mark, when there is one. -/
def power? : List Char → Option (Option Int × List Char)
  | 'e' :: rest => (exponent? rest).map fun (p, rest) => (some p, rest)
  | 'E' :: rest => (exponent? rest).map fun (p, rest) => (some p, rest)
  | rest => some (none, rest)

/-- The integer of 64 bits that digits stand for; minus zero is none. -/
def integer? (negative : Bool) (digits : List Char) : Option Int :=
  let n := digitsValue digits
  if negative then if n = 0 ∨ UInt64.size / 2 < n then none else some (-(n : Int))
  else if n < UInt64.size then some n
  else none

/-- Whole numerals are integers where they can be. -/
def ofNumeral (precision : Precision) (negative : Bool) (whole fraction : List Char)
    (power : Option Int) : Json :=
  let integer := if fraction.isEmpty && power.isNone then integer? negative whole else none
  match integer with
  | some n => .int n
  | none =>
    match Numeral.finite? ⟨whole, fraction, power.getD 0⟩ negative precision with
    | some x => .real x
    | none => .unreadable

def number? (precision : Precision) (cs : List Char) : Option (Json × List Char) := do
  let (negative, cs) :=
    match cs with
    | '-' :: rest => (true, rest)
    | rest => (false, rest)
  let (whole, cs) ← whole? cs
  let (fraction, cs) ← fraction? cs
  let (power, cs) ← power? cs
  return (ofNumeral precision negative whole fraction power, cs)

/-- A member by the pieces of its name. -/
def member (name : List Piece) (value : Json) : String × Json :=
  match joined? name with
  | some cs => (String.ofList cs, value)
  | none => ("", .misnamed value)

/-- A value that ends the reading. -/
def broken : Json × Option (List Char) := (.cut, none)

mutual

/-- One value and the rest of the text; no rest when the text stops being JSON. -/
def readValue (precision : Precision) : Nat → List Char → Json × Option (List Char)
  | 0, _ => broken
  | fuel + 1, cs =>
    match skipSpace cs with
    | 'n' :: 'u' :: 'l' :: 'l' :: rest => (.null, some rest)
    | 't' :: 'r' :: 'u' :: 'e' :: rest => (.bool true, some rest)
    | 'f' :: 'a' :: 'l' :: 's' :: 'e' :: rest => (.bool false, some rest)
    | '"' :: rest =>
      match pieces? rest with
      | none => broken
      | some (ps, rest) =>
        match joined? ps with
        | none => (.unreadable, some rest)
        | some s => (.string (String.ofList s), some rest)
    | '[' :: rest =>
      match skipSpace rest with
      | ']' :: rest => (.array [], some rest)
      | rest =>
        let (items, rest) := readItems precision fuel rest
        (.array items, rest)
    | '\x7b' :: rest =>
      match skipSpace rest with
      | '\x7d' :: rest => (.object [], some rest)
      | rest =>
        let (members, rest) := readMembers precision fuel rest
        (.object members, rest)
    | rest =>
      match number? precision rest with
      | none => broken
      | some (j, rest) => (j, some rest)

/-- The items of an array, at least one, up to the closing bracket. -/
def readItems (precision : Precision) : Nat → List Char → List Json × Option (List Char)
  | 0, _ => ([.cut], none)
  | fuel + 1, cs =>
    match readValue precision fuel cs with
    | (j, none) => ([j], none)
    | (j, some rest) =>
      match skipSpace rest with
      | ']' :: rest => ([j], some rest)
      | ',' :: rest =>
        let (js, rest) := readItems precision fuel rest
        (j :: js, rest)
      | _ => ([j, .cut], none)

/-- The members of an object, at least one, up to the closing brace. -/
def readMembers (precision : Precision) : Nat → List Char → List (String × Json) × Option (List Char)
  | 0, _ => ([("", .cut)], none)
  | fuel + 1, cs =>
    match skipSpace cs with
    | '"' :: rest =>
      match pieces? rest with
      | none => ([("", .cut)], none)
      | some (ps, rest) =>
        match skipSpace rest with
        | ':' :: rest =>
          match readValue precision fuel rest with
          | (j, none) => ([member ps j], none)
          | (j, some rest) =>
            match skipSpace rest with
            | '\x7d' :: rest => ([member ps j], some rest)
            | ',' :: rest =>
              let (ms, rest) := readMembers precision fuel rest
              (member ps j :: ms, rest)
            | _ => ([member ps j, ("", .cut)], none)
        | _ => ([member ps .cut], none)
    | _ => ([("", .cut)], none)

end

/-- A text read as one value. It is complete when nothing but space follows. -/
structure Document where
  value : Json
  complete : Bool

def Document.ofText (precision : Precision) (text : String) : Document :=
  let cs := text.toList
  match readValue precision (cs.length + 1) cs with
  | (j, none) => ⟨j, false⟩
  | (j, some rest) => ⟨j, (skipSpace rest).isEmpty⟩

/-- The value of a text that is JSON throughout. -/
def parse? (precision : Precision) (text : String) : Option Json :=
  let d := Document.ofText precision text
  if d.complete && d.value.legible then some d.value else none

end VolumePricing.Json
