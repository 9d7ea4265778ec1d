import VolumePricing.Toml.Scalar
import VolumePricing.Toml.Text
import VolumePricing.Toml.Tree

/-!
# Reading TOML

A document is a row of lines: headers, and keys with their values. The lines are
read first and the tables built from them after.
-/

namespace VolumePricing.Toml

def isBare (c : Char) : Bool := c.isAlphanum || c = '_' || c = '-'

/-- One part of a key: bare, or quoted. -/
def keyPart? (cs : List Char) : Option (String × List Char) :=
  match cs.takeWhile isBare with
  | [] => quoted? cs
  | name => some (String.ofList name, cs.dropWhile isBare)

/-- How many parts a key may have, and how many arrays and tables in braces may stand inside
one another. -/
def depthLimit : Nat := 80

/-- A key: parts with dots between them, at most so many. -/
def keyParts? : Nat → List Char → Option (List String × List Char)
  | 0, _ => none
  | limit + 1, cs => do
    let (name, rest) ← keyPart? (cs.dropWhile isBlank)
    match rest.dropWhile isBlank with
    | '.' :: rest =>
      let (path, rest) ← keyParts? limit rest
      return (name :: path, rest)
    | rest => return ([name], rest)

def key? (cs : List Char) : Option (List String × List Char) := keyParts? depthLimit cs

/-- The rest behind a comment, if there is one here. -/
def skipComment? : List Char → Option (List Char)
  | '#' :: rest =>
    match rest.dropWhile isPlain with
    | [] => some []
    | '\n' :: rest => some ('\n' :: rest)
    | '\r' :: '\n' :: rest => some ('\n' :: rest)
    | _ => none
  | rest => some rest

/-- The rest behind blanks, comments and line ends. -/
def skipSpace? : Nat → List Char → Option (List Char)
  | 0, _ => none
  | fuel + 1, cs => do
    let rest ← skipComment? (cs.dropWhile isBlank)
    match newline? rest with
    | some rest => skipSpace? fuel rest
    | none => return rest

def isScalarChar (c : Char) : Bool := c.isAlphanum || "+-_.:".toList.contains c

/-- A bare word. A blank inside it stands between a date and a time. -/
def word (cs : List Char) : List Char :=
  let first := cs.takeWhile isScalarChar
  match cs.dropWhile isScalarChar with
  | ' ' :: c :: rest =>
    if isDate first && c.isDigit then first ++ ' ' :: (c :: rest).takeWhile isScalarChar else first
  | _ => first

mutual

/-- A value; the first number is the fuel, the second how deep arrays and tables may go. -/
def value? : Nat → Nat → List Char → Option (Setting × List Char)
  | 0, _, _ => none
  | fuel + 1, depth, cs =>
    match cs, depth with
    | '[' :: _, 0 => none
    | '\x7b' :: _, 0 => none
    | '[' :: rest, depth + 1 => (items? fuel depth rest).map fun (items, rest) => (.list items, rest)
    | '\x7b' :: rest, depth + 1 =>
      (members? fuel depth [] rest).map fun (members, rest) => (.table (membersValue members), rest)
    | _, _ =>
      if cs.headD ' ' = '"' || cs.headD ' ' = apostrophe then
        (text? cs).map fun (s, rest) => (.text s, rest)
      else (scalar? (word cs)).map fun s => (s, cs.drop (word cs).length)

/-- The values of an array, up to its closing bracket. -/
def items? : Nat → Nat → List Char → Option (List Setting × List Char)
  | 0, _, _ => none
  | fuel + 1, depth, cs => do
    match ← skipSpace? (fuel + 1) cs with
    | ']' :: rest => return ([], rest)
    | rest =>
      let (value, rest) ← value? fuel depth rest
      match ← skipSpace? (fuel + 1) rest with
      | ']' :: rest => return ([value], rest)
      | ',' :: rest =>
        let (values, rest) ← items? fuel depth rest
        return (value :: values, rest)
      | _ => none

/-- The members of a table in braces, up to its closing brace. -/
def members? : Nat → Nat → Members → List Char → Option (Members × List Char)
  | 0, _, _, _ => none
  | fuel + 1, depth, ms, cs => do
    match ← skipSpace? (fuel + 1) cs with
    | '\x7d' :: rest => return (ms, rest)
    | rest =>
      let (path, rest) ← key? rest
      let '=' :: rest := rest | none
      let (value, rest) ← value? fuel depth (rest.dropWhile isBlank)
      let ms ← insert value path ms
      match ← skipSpace? (fuel + 1) rest with
      | '\x7d' :: rest => return (ms, rest)
      | ',' :: rest => members? fuel depth ms rest
      | _ => none

end

inductive Line
  | table (path : List String)
  | element (path : List String)
  | entry (path : List String) (value : Setting)

/-- One line up to its end, which blanks and a comment may precede. -/
def line? (fuel : Nat) (cs : List Char) : Option (Line × List Char) := do
  match cs with
  | '[' :: '[' :: rest =>
    let (path, rest) ← key? rest
    let ']' :: ']' :: rest := rest | none
    return (.element path, rest)
  | '[' :: rest =>
    let (path, rest) ← key? rest
    let ']' :: rest := rest | none
    return (.table path, rest)
  | _ =>
    let (path, rest) ← key? cs
    let '=' :: rest := rest | none
    let (value, rest) ← value? fuel depthLimit (rest.dropWhile isBlank)
    return (.entry path value, rest)

/-- The lines of a document. -/
def document? : Nat → List Char → Option (List Line)
  | 0, _ => none
  | fuel + 1, cs => do
    match ← skipSpace? (fuel + 1) cs with
    | [] => return []
    | rest =>
      let (line, rest) ← line? (fuel + 1) rest
      let rest ← skipComment? (rest.dropWhile isBlank)
      match rest with
      | [] => return [line]
      | _ =>
        let rest ← newline? rest
        return line :: (← document? fuel rest)

/-- The tables built so far, and the header that the next keys are under. -/
structure Building where
  root : Members := []
  header : List String := []

def Building.add (b : Building) : Line → Option Building
  | .table path => do
    let root ← descend (openTable (path.getLastD "")) path.dropLast b.root
    return { root, header := path }
  | .element path => do
    let root ← descend (openElement (path.getLastD "")) path.dropLast b.root
    return { root, header := path }
  | .entry path value => do
    let root ← descend (insert value path) b.header b.root
    return { b with root }

/-- The members of the document, if it is one. -/
def parse? (text : String) : Option (List (String × Setting)) := do
  let cs := text.toList
  let cs := if cs.head? = some '\ufeff' then cs.drop 1 else cs
  let lines ← document? (2 * cs.length + 2) cs
  let built ← lines.foldlM Building.add {}
  return membersValue built.root

end VolumePricing.Toml
