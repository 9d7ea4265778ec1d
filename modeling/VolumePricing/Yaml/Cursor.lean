/-!
# A place in a YAML text

What a line means depends on the column where it begins, and a word turns out to
be a key only when its colon is met. So the state of a reading holds, besides the
rest of the text, the place in it, the columns of the blocks around it, and the
places where a key may have begun. The readers here move it over spaces and
comments, and open and close blocks.
-/

/-!
### The tokens of YAML

A text is a row of tokens, among them such as no character stands for: the
beginnings and ends of blocks, which are told by indentation.
-/

namespace VolumePricing.Yaml

inductive Token
  /-- The directive that names the version. -/
  | version
  /-- The directive that says what a handle stands for. -/
  | handle (name meaning : String)
  | documentStart
  | documentEnd
  | blockSequence
  | blockMapping
  | blockEnd
  | flowSequence
  | flowSequenceEnd
  | flowMapping
  | flowMappingEnd
  | item
  | comma
  | key
  | value
  /-- A value that was given a name before. -/
  | reference (name : String)
  | anchor (name : String)
  | tag (handle suffix : String)
  | scalar (plain : Bool) (text : String)
  deriving DecidableEq, Repr


/-! ### Places and keys -/

structure Place where
  index : Nat := 0
  line : Nat := 0
  column : Nat := 0
  deriving DecidableEq, Repr

/-- Where a key may have begun: its place, and the token that it would come before. -/
structure KeyStart where
  place : Place := {}
  token : Nat := 0
  possible : Bool := false
  /-- Nothing but a key can stand there. -/
  required : Bool := false
  deriving DecidableEq, Repr

/-- The column that was in force around a block, and whether a token closes the block. -/
structure Margin where
  column : Int
  closes : Bool
  deriving DecidableEq, Repr

structure Cursor where
  rest : List Char
  place : Place := {}
  /-- Only blanks come before in this line. -/
  fresh : Bool := true
  tokens : Array Token := #[]
  keyAllowed : Bool := true
  /-- One for the blocks and one for each flow, the innermost first. -/
  keys : List KeyStart := [{}]
  /-- The column of the innermost block. -/
  indent : Int := -1
  margins : List Margin := []
  flowDepth : Nat := 0
  /-- Where a colon may stand right before its value, because of the key it follows. -/
  adjacentAt : Nat := 0
  /-- A mapping in a flow has been opened by a sign of its own. -/
  signed : Bool := false
  /-- For each sequence in a flow how deep the mapping is that began in it without a sign. -/
  unsigned : List (Option Nat) := []

abbrev Reader (α : Type) := StateT Cursor Option α

def isBlank (c : Char) : Bool := c = ' ' || c = '\t'

def isFlowSign (c : Char) : Bool := ",[]\x7b\x7d".toList.contains c

/-- A place where a word ends: a blank, a line end or the end of the text. -/
def endsWord : List Char → Bool
  | [] => true
  | c :: _ => isBlank c || c = '\n'

/-- A place where a line ends. -/
def endsLine : List Char → Bool
  | [] => true
  | c :: _ => c = '\n'

def rest : Reader (List Char) := return (← get).rest

def place : Reader Place := return (← get).place

def column : Reader Int := return (← get).place.column

def peek? : Reader (Option Char) := return (← rest).head?

def inFlow : Reader Bool := return 0 < (← get).flowDepth

/-- The cursor so many characters further on in its line. -/
def Cursor.forward (s : Cursor) (n : Nat) : Cursor :=
  { s with
    rest := s.rest.drop n
    place := { s.place with index := s.place.index + n, column := s.place.column + n } }

/-- Passes over blanks. -/
def skipBlanks (n : Nat) : Reader Unit := modify (·.forward n)

/-- Passes over characters that begin the content of the line. -/
def drop (n : Nat) : Reader Unit :=
  modify fun s => if n = 0 then s else { s.forward n with fresh := false }

/-- Passes over a line end. -/
def newLine : Reader Unit :=
  modify fun s =>
    { s with
      rest := s.rest.drop 1
      place := ⟨s.place.index + 1, s.place.line + 1, 0⟩
      fresh := true }

/-- The characters up to the first that is not wanted, which stays. -/
def takeWhile (p : Char → Bool) : Reader (List Char) := do
  let cs := (← rest).takeWhile p
  drop cs.length
  return cs

def skipComment : Reader Unit := do
  skipBlanks ((← rest).takeWhile (· ≠ '\n')).length

/-- Passes over blanks and a comment, which needs a blank before it. Tells whether there were
tabs and whether there were spaces. -/
def toLineEnd (tabs : Bool) : Reader (Bool × Bool) := do
  let blanks := (← rest).takeWhile fun c => c = ' ' || (tabs && c = '\t')
  skipBlanks blanks.length
  if (← peek?) = some '#' then
    if blanks.isEmpty then failure
    skipComment
  return (blanks.contains '\t', blanks.contains ' ')

def allowKey (b : Bool) : Reader Unit := modify fun s => { s with keyAllowed := b }

/-- Moves on to the next character that is neither space nor comment. Tabs may not indent
what is in a block. -/
def toContent : Nat → Reader Unit
  | 0 => failure
  | fuel + 1 => do
    let s ← get
    match s.rest.head? with
    | some '\n' => do
      newLine
      if s.flowDepth = 0 then allowKey true
      toContent fuel
    | some '#' => do
      skipComment
      toContent fuel
    | some c =>
      if c = '\t' && !s.margins.isEmpty && s.fresh && (s.place.column : Int) < s.indent then do
        let _ ← toLineEnd true
        if endsLine (← rest) then toContent fuel else failure
      else if isBlank c then do
        skipBlanks 1
        toContent fuel
      else return ()
    | none => return ()

def solid : Reader Unit := do toContent ((← rest).length + 1)

/-- Passes over spaces, line ends and comments, of which there has to be something. -/
def spaces : Nat → Bool → Reader Unit
  | 0, _ => failure
  | fuel + 1, found => do
    match ← peek? with
    | some ' ' => do
      skipBlanks 1
      spaces fuel true
    | some '\n' => do
      newLine
      if !(← inFlow) then allowKey true
      spaces fuel true
    | some '#' => do
      skipComment
      spaces fuel found
    | _ => if found then return () else failure

/-- Three characters at the start of a line that end or begin a document. -/
def isMark (mark : String) : Reader Bool := do
  let s ← get
  return s.place.column = 0 && s.rest.take 3 = mark.toList && endsWord (s.rest.drop 3)

def isAnyMark : Reader Bool := do return (← isMark "---") || (← isMark "...")

def push (t : Token) : Reader Unit := modify fun s => { s with tokens := s.tokens.push t }

def insert (n : Nat) (t : Token) : Reader Unit :=
  modify fun s => { s with tokens := s.tokens.insertIdxIfInBounds n t }

/-- Takes margins off as long as they are wanted off. -/
def unroll (wanted : Int → Margin → Bool) (s : Cursor) : List Margin → Cursor
  | [] => { s with margins := [] }
  | m :: ms =>
    if wanted s.indent m then
      unroll wanted { s with
        indent := m.column
        tokens := if m.closes then s.tokens.push .blockEnd else s.tokens } ms
    else { s with margins := m :: ms }

/-- Closes the blocks that are further to the right. -/
def closeBlocks (column : Int) : Reader Unit :=
  modify fun s =>
    if 0 < s.flowDepth then s else unroll (fun indent _ => column < indent) s s.margins

/-- Takes back the indentation that only continued lines have. -/
def withdraw : Reader Unit := modify fun s => unroll (fun _ m => !m.closes) s s.margins

/-- The lines that continue a value are indented by one column at least. -/
def indentContinued : Reader Unit :=
  modify fun s =>
    if s.flowDepth = 0 && s.margins.head?.any (·.closes) then
      { s with margins := ⟨s.indent, false⟩ :: s.margins, indent := s.indent + 1 }
    else s

/-- Opens a block in a column unless it is open there: the token comes before the one with the
given number. -/
def openBlock (column : Nat) (number : Nat) (t : Token) : Reader Unit :=
  modify fun s =>
    if 0 < s.flowDepth then s
    else
      let s :=
        match s.margins with
        | m :: ms =>
          if s.indent ≤ (column : Int) && !m.closes then
            { s with indent := m.column, margins := ms }
          else s
        | [] => s
      if s.indent < (column : Int) then
        { s with
          margins := ⟨s.indent, true⟩ :: s.margins
          indent := column
          tokens := s.tokens.insertIdxIfInBounds number t }
      else s

/-- A key may begin here. -/
def markKey : Reader Unit :=
  modify fun s =>
    if s.keyAllowed then
      let required := 0 < s.flowDepth && s.indent = s.place.column && s.margins.head?.any (·.closes)
      { s with keys := ⟨s.place, s.tokens.size, true, required⟩ :: s.keys.drop 1 }
    else s

/-- What may have been a key is none. -/
def unmarkKey : Reader Unit := do
  let s ← get
  if s.keys.head?.any fun k => k.possible && k.required then failure
  set { s with keys := s.keys.modifyHead fun k : KeyStart => { k with possible := false } }

/-- How long a key may be. -/
def keyLimit : Nat := 1024

/-- Outside of flows a key ends in its line and is not too long. -/
def dropStaleKeys : Reader Unit := do
  let s ← get
  let isStale (k : KeyStart) : Bool := k.possible && s.flowDepth = 0 &&
    (k.place.line < s.place.line || k.place.index + keyLimit < s.place.index)
  if s.keys.any fun k => isStale k && k.required then failure
  set { s with keys := s.keys.map fun k : KeyStart => { k with possible := k.possible && !isStale k } }

end VolumePricing.Yaml
