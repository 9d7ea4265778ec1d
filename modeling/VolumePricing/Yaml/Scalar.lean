import VolumePricing.Text.Hex
import VolumePricing.Yaml.Cursor

/-!
# Scalars in YAML

A scalar is plain, in single or in double quotes, or a block of lines. Where it
runs over several lines they are folded: one line end becomes a blank, and of
several all but the first stay.
-/

namespace VolumePricing.Yaml

/-- What stands in the text for so many line ends between two words. -/
def folded (ends : Nat) : List Char :=
  if ends ≤ 1 then [' '] else List.replicate (ends - 1) '\n'

/-- What is between two words: blanks on one line, or line ends. -/
structure Gap where
  blanks : List Char := []
  ends : Nat := 0
  /-- A line end before these was taken back. -/
  escaped : Bool := false
  deriving DecidableEq, Repr

def Gap.isInLine (g : Gap) : Bool := g.ends = 0 && !g.escaped

def Gap.text (g : Gap) : List Char :=
  if g.escaped then List.replicate g.ends '\n'
  else if g.ends = 0 then g.blanks
  else folded g.ends

/-- Passes over blanks and line ends. A tab left of a column counts as an indentation. -/
def between (indent : Int) (onTab : Reader Unit) : Nat → Gap → Reader Gap
  | 0, _ => failure
  | fuel + 1, g => do
    match ← peek? with
    | some '\n' => do
      newLine
      between indent onTab fuel { g with blanks := [], ends := g.ends + 1 }
    | some c =>
      if !isBlank c then return g
      else if g.isInLine then do
        skipBlanks 1
        between indent onTab fuel { g with blanks := g.blanks ++ [c] }
      else if c = '\t' && (← column) < indent then do
        onTab
        between indent onTab fuel g
      else do
        skipBlanks 1
        between indent onTab fuel g
    | none => return g

/-- A colon here ends a key. -/
def isColon (flow : Bool) : List Char → Bool
  | ':' :: rest => endsWord rest || (flow && rest.head?.any isFlowSign)
  | _ => false

/-- The characters of a plain scalar up to a blank. -/
def plainWord (flow : Bool) : List Char → List Char
  | [] => []
  | c :: cs =>
    if endsWord (c :: cs) || isColon flow (c :: cs) || (flow && isFlowSign c) then []
    else c :: plainWord flow cs

/-- A tab before the words of a line does not indent it; the line has to be empty. -/
def emptyLine : Reader Unit := do
  let _ ← toLineEnd true
  if !endsLine (← rest) then failure

/-- The words of a plain scalar, with what is between them. Its lines are indented up to the
given column at least. -/
def plainWords (indent : Int) : Nat → Gap → Reader (List Char)
  | 0, _ => failure
  | fuel + 1, g => do
    let cs ← rest
    if (← isAnyMark) || cs.head? = some '#' then return []
    let flow ← inFlow
    if flow && cs.head? = some '-' && (cs.drop 1).head?.any isFlowSign then failure
    let word := plainWord flow cs
    drop word.length
    let word := if word.isEmpty then [] else g.text ++ word
    let cs ← rest
    if cs.isEmpty || !endsWord cs then return word
    let g ← between indent emptyLine (cs.length + 1) {}
    if !flow && (← column) < indent then return word
    return word ++ (← plainWords indent fuel g)

def plainScalar : Reader Token := do
  withdraw
  let indent := (← get).indent + 1
  if (← inFlow) && (← column) < indent then failure
  let text ← plainWords indent ((← rest).length + 1) {}
  if (← get).fresh then allowKey true
  if text.isEmpty then failure
  return .scalar true (String.ofList text)

/-- The character of an escape with so many hexadecimal digits. -/
def coded (count : Nat) : Reader Char := do
  let some ds := ((← rest).take count).mapM Text.hexValue? | failure
  let n := ds.foldl (fun n d => 16 * n + d.val) 0
  if ds.length ≠ count || !decide n.isValidChar then failure
  drop count
  return Char.ofNat n

def escapes : List (Char × Nat) :=
  [('0', 0), ('a', 7), ('b', 8), ('t', 9), ('\t', 9), ('n', 10), ('v', 11), ('f', 12), ('r', 13),
   ('e', 27), (' ', 32), ('"', 34), ('/', 47), ('\\', 92), ('N', 0x85), ('_', 0xA0), ('L', 0x2028),
   ('P', 0x2029)]

/-- The character of an escape, whose backslash is read. -/
def escape : Reader Char := do
  let some c ← peek? | failure
  drop 1
  match c with
  | 'x' => coded 2
  | 'u' => coded 4
  | 'U' => coded 8
  | _ =>
    match escapes.lookup c with
    | some n => return Char.ofNat n
    | none => failure

def apostrophe : Char := Char.ofNat 39

def isQuote (c : Char) : Bool := c = '"' || c = apostrophe

/-- Characters in quotes up to a blank, a line end or the quote that closes them. Tells whether
a line end was taken back. -/
def quotedWord (quote : Char) : Nat → Reader (List Char × Bool)
  | 0 => failure
  | fuel + 1 => do
    match ← rest with
    | [] => return ([], false)
    | c :: cs =>
      if isBlank c || c = '\n' || (c = quote && (quote = '"' || cs.head? ≠ some quote)) then
        return ([], false)
      else if c = '\\' && quote = '"' && cs.head? = some '\n' then do
        drop 1
        newLine
        return ([], true)
      else do
        drop (if c = quote then 2 else 1)
        let c ← if c = '\\' && quote = '"' then escape else pure c
        let (word, escaped) ← quotedWord quote fuel
        return (c :: word, escaped)

/-- The words in quotes, with what is between them. -/
def quotedWords (quote : Char) : Nat → Reader (List Char)
  | 0 => failure
  | fuel + 1 => do
    let indent := (← get).indent
    if (← isAnyMark) || (← rest).isEmpty || (← column) < indent then failure
    let (word, escaped) ← quotedWord quote ((← rest).length + 1)
    let cs ← rest
    if cs.head? = some quote then return word
    let g ← between indent failure (cs.length + 1) { escaped }
    return word ++ g.text ++ (← quotedWords quote fuel)

/-- A scalar in quotes. Behind it its line ends, or the key that it is, or the place in a flow. -/
def quotedScalar (quote : Char) : Reader Token := do
  let line := (← place).line
  drop 1
  let text ← quotedWords quote ((← rest).length + 1)
  drop 1
  let _ ← toLineEnd true
  let flow ← inFlow
  let goesOn ← match ← peek? with
    | some '\n' | none => pure true
    | some ':' => pure (flow || line = (← place).line)
    | some c => pure (flow && ",]\x7d".toList.contains c)
  if !goesOn then failure
  return .scalar false (String.ofList text)

/-- What becomes of the line ends behind a block of lines. -/
inductive Chomp
  | clip
  | strip
  | keep
  deriving DecidableEq, Repr

def chomp? : Reader (Option Chomp) := do
  match ← peek? with
  | some '+' => do
    drop 1
    return some .keep
  | some '-' => do
    drop 1
    return some .strip
  | _ => return none

/-- The digit that says by how much a block is indented. -/
def increment? : Reader (Option Nat) := do
  match ← peek? with
  | some c =>
    if c = '0' then failure
    else if c.isDigit then do
      drop 1
      return some (c.toNat - '0'.toNat)
    else return none
  | none => return none

/-- What becomes of the end of a block, and its indentation if that is said, in either order. -/
def blockHeader : Reader (Chomp × Option Nat) := do
  match ← chomp? with
  | some chomp => return (chomp, ← increment?)
  | none => do
    let increment ← increment?
    if increment.isNone then return (.clip, none)
    return ((← chomp?).getD .clip, increment)

/-- Passes over empty lines and the spaces before a line, which may be so many as the bound
says. Counts the line ends, and tells the column furthest to the right. -/
def skipIndent (bound : Option Nat) : Nat → Nat → Nat → Reader (Nat × Nat)
  | 0, _, _ => failure
  | fuel + 1, ends, furthest => do
    let spaces := ((← rest).takeWhile (· = ' ')).length
    let column := (← place).column
    skipBlanks (bound.elim spaces fun n => min spaces (n - column))
    let furthest := max furthest (← place).column
    if (← peek?) = some '\n' then
      newLine
      skipIndent bound fuel (ends + 1) furthest
    else return (ends, furthest)

/-- The text of a block of lines so far, and what the next line depends on. -/
structure BlockText where
  text : List Char := []
  /-- The last line has ended. -/
  ended : Bool := false
  /-- The empty lines after it. -/
  empty : Nat
  /-- It begins with a blank. -/
  blank : Bool := false

/-- The text with what is between its last line and one that begins with a blank or not. Lines
that begin with one are not folded. -/
def BlockText.continued (b : BlockText) (isFolded blank : Bool) : List Char :=
  b.text ++
    if isFolded && b.ended && !b.blank && !blank then folded (b.empty + 1)
    else List.replicate (b.empty + if b.ended then 1 else 0) '\n'

/-- The lines in the given column. -/
def blockLines (isFolded : Bool) (indent : Nat) : Nat → BlockText → Reader BlockText
  | 0, _ => failure
  | fuel + 1, b => do
    let cs ← rest
    if (← place).column ≠ indent || cs.isEmpty then return b
    if indent = 0 && (← isMark "...") then return b
    let blank := cs.head?.any isBlank
    let line ← takeWhile (· ≠ '\n')
    let text := b.continued isFolded blank ++ line
    if (← peek?).isNone then return { text, empty := 0, blank }
    newLine
    let (empty, _) ← skipIndent (some indent) ((← rest).length + 1) 0 0
    blockLines isFolded indent fuel { text, ended := true, empty, blank }

/-- The end of a block. A last line without an end counts as ended where it is indented. -/
def BlockText.chomped (b : BlockText) (chomp : Chomp) (isCut : Bool) : List Char :=
  match chomp with
  | .strip => b.text
  | .clip => b.text ++ ending
  | .keep => b.text ++ ending ++ List.replicate b.empty '\n'
where
  ending : List Char := List.replicate ((if b.ended then 1 else 0) + if isCut then 1 else 0) '\n'

/-- The text of a block without lines, behind so many line ends. -/
def emptyBlock (chomp : Chomp) (ends : Nat) : List Char :=
  match chomp with
  | .strip => []
  | .clip => List.replicate (min ends 1) '\n'
  | .keep => List.replicate (if 1 < ends then ends - 1 else ends) '\n'

/-- The column of the lines of a block, and the empty lines before them. -/
def blockIndent (increment : Option Nat) : Reader (Nat × Nat) := do
  let outer := (← get).indent
  let length := (← rest).length
  match increment with
  | some n => do
    let indent := outer.toNat + n
    return (indent, (← skipIndent (some indent) (length + 1) 0 0).1)
  | none => do
    let (ends, furthest) ← skipIndent none (length + 1) 0 0
    return (max furthest (outer + 1).toNat, ends)

/-- A block of lines. -/
def blockScalar : Reader Token := do
  let isFolded := (← peek?) = some '>'
  drop 1
  withdraw
  let (chomp, increment) ← blockHeader
  let _ ← toLineEnd true
  if !endsLine (← rest) then failure
  let hasEnd := !(← rest).isEmpty
  if hasEnd then newLine
  if (← peek?) = some '\t' then failure
  let (indent, empty) ← blockIndent increment
  let cs ← rest
  if cs.isEmpty then
    return .scalar false (String.ofList (emptyBlock chomp (empty + if hasEnd then 1 else 0)))
  let column := (← place).column
  if column < indent && (← get).indent < column then failure
  let b ← blockLines isFolded indent (cs.length + 1) { empty }
  let isCut := (← rest).isEmpty && max indent 1 ≤ (← place).column
  return .scalar false (String.ofList (b.chomped chomp isCut))

end VolumePricing.Yaml
