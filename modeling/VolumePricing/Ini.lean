import VolumePricing.Settings.Path
import VolumePricing.Text.Blank
import VolumePricing.Text.Hex

/-!
# Reading INI

A file is a row of sections, each with a name in brackets and entries behind it;
entries before the first section belong to none. Every value is a text. Names
may run over line ends, values end with their line, and both may have escapes.
A comment has a line of its own, from its first character on. A line that begins
with a blank is part of a name, and if none comes of it, it is passed over.
-/

namespace VolumePricing.Ini

inductive Item
  | header (name : String)
  | entry (name value : String)
  deriving DecidableEq, Repr

def isLineEnd (c : Char) : Bool := c = '\n' || c = '\r'

/-- A character that makes up the start of an indented line. -/
def isIndent (c : Char) : Bool := c = ' ' || c = '\t'

/-- The rest behind spaces, and whether it begins a line; the argument says so of the text. With
`stops` an indented line is not gone into. -/
def skipSpace (stops : Bool) : Bool → List Char → Bool × List Char
  | begins, [] => (begins, [])
  | begins, c :: cs =>
    if stops && isLineEnd c && cs.head?.any isIndent then (true, cs)
    else if Text.isBlankChar c then skipSpace stops (c = '\n') cs
    else (begins, c :: cs)

def trimEnd (cs : List Char) : List Char := (cs.reverse.dropWhile Text.isBlankChar).reverse

def trim (cs : List Char) : List Char := trimEnd (cs.dropWhile Text.isBlankChar)

/-- Reading may fail at a place of the text, from which on it may be tried again. -/
abbrev Reading := Except (List Char)

/-- So many characters of an escape, and the text from the last of them on. -/
def codeChars : Nat → List Char → Reading (List Char × List Char)
  | 0, cs => .ok ([], cs)
  | _, [] => .error []
  | n + 1, '\\' :: cs => do
    if cs.head? ≠ some '\n' then .error cs
    let (code, here) ← if n = 0 then .ok ([], cs) else codeChars n (cs.drop 1)
    return ('\\' :: code, here)
  | n + 1, c :: cs => do
    let (code, here) ← if n = 0 then .ok ([], c :: cs) else codeChars n cs
    return (c :: code, here)

/-- The character of a hexadecimal number, which may have a plus sign. -/
def coded? (code : List Char) : Option Char := do
  let ds ← (if code.head? = some '+' then code.drop 1 else code).mapM Text.hexValue?
  let n := ds.foldl (fun n d => 16 * n + d.val) 0
  if n.isValidChar then some (Char.ofNat n) else none

/-- What an escape stands for, and the rest; the backslash is read. A line end stands for
nothing, and a character without a meaning of its own for itself, as does a backslash at the end
of the file. -/
def escape : List Char → Reading (List Char × List Char)
  | [] => .ok (['\\'], [])
  | '\n' :: rest => .ok ([], rest)
  | '0' :: rest => .ok (['\x00'], rest)
  | 'a' :: rest => .ok (['\x07'], rest)
  | 'b' :: rest => .ok (['\x08'], rest)
  | 't' :: rest => .ok (['\t'], rest)
  | 'r' :: rest => .ok (['\r'], rest)
  | 'n' :: rest => .ok (['\n'], rest)
  | 'x' :: rest => do
    let (code, here) ← codeChars 4 rest
    match coded? code with
    | some c => return ([c], here.drop 1)
    | none => .error here
  | c :: rest => .ok ([c], rest)

/-- The text up to a character where it stops; `ends` says that it may end with the file. -/
def textUntil (stops : Char → Bool) (ends : Bool) :
    Nat → List Char → Reading (List Char × List Char)
  | 0, cs => .error cs
  | _ + 1, [] => if ends then .ok ([], []) else .error []
  | fuel + 1, c :: cs =>
    if stops c then .ok ([], c :: cs)
    else do
      let (piece, rest) ← if c = '\\' then escape cs else .ok ([c], cs)
      let (text, rest) ← textUntil stops ends fuel rest
      return (piece ++ text, rest)

def isQuote (c : Char) : Bool := c = '"' || c = Char.ofNat 39

/-- A value up to the end of its line: quoted pieces, and then a plain one, which is trimmed.
The first argument says that nothing of the value has been read. -/
def value : Bool → Nat → List Char → Reading (List Char × List Char)
  | _, 0, cs => .error cs
  | first, fuel + 1, cs =>
    if cs.head?.any isQuote then do
      let (piece, rest) ← textUntil (cs.head? = some ·) false (fuel + 1) (cs.drop 1)
      let (text, rest) ← value false fuel (rest.drop 1)
      return (piece ++ text, rest)
    else do
      let (text, rest) ← textUntil isLineEnd true (fuel + 1) cs
      return (if first then trim text else trimEnd text, rest)

/-- The name before an equals sign or a colon. -/
def name (cs : List Char) : Reading (List Char × List Char) :=
  textUntil (fun c => c = '=' || c = ':') false (cs.length + 1) cs

/-- The value behind a name, whose sign comes next, and the rest. -/
def entry? (name rest : List Char) : Option (Item × List Char) := do
  if (trim name).isEmpty then none
  let rest := (rest.drop 1).dropWhile fun c => Text.isBlankChar c && !isLineEnd c
  let (value, rest) ← (value true (rest.length + 1) rest).toOption
  return (.entry (String.ofList (trim name)) (String.ofList value), rest)

/-- The items of a file from a place behind spaces on; the flag says that it begins a line. -/
def items? : Nat → Bool × List Char → Option (List Item)
  | 0, _ => none
  | _ + 1, (_, []) => some []
  | fuel + 1, (begins, c :: rest) =>
    if c = ';' || c = '#' then
      if begins then items? fuel (skipSpace true true ((rest.dropWhile (· ≠ '\n')).drop 1)) else none
    else if c = '[' then do
      let (name, rest) ← (textUntil (· = ']') false (rest.length + 1) rest).toOption
      let items ← items? fuel (skipSpace true false (rest.drop 1))
      return .header (String.ofList (trim name)) :: items
    else
      match name (c :: rest) with
      | .ok (name, rest) => do
        let (item, rest) ← entry? name rest
        return item :: (← items? fuel (skipSpace true false rest))
      | .error rest =>
        if isIndent c then
          let (begins, rest) := skipSpace false false rest
          items? fuel (skipSpace true begins rest)
        else none

/-- The table read so far, and the section that entries belong to. -/
structure Building where
  table : Settings.Table := []
  current : Option String := none

/-- A section begins empty, also where one of its name has been. -/
def Building.add (b : Building) : Item → Building
  | .header name => ⟨Settings.set name (.table []) b.table, some name⟩
  | .entry name value =>
    let value := Setting.text value
    match b.current with
    | none => { b with table := Settings.set name value b.table }
    | some header =>
      let entries := (Settings.member header b.table).members
      { b with table := Settings.set header (.table (Settings.set name value entries)) b.table }

/-- The table that a text holds. -/
def parse? (text : String) : Option Settings.Table := do
  let items ← items? (text.length + 2) (true, text.toList.dropWhile isLineEnd)
  return (items.foldl Building.add {}).table

end VolumePricing.Ini
