import VolumePricing.Yaml.Scalar
import VolumePricing.Yaml.Tag

/-!
# From text to tokens

A sign is read by what comes behind it and by where it stands: in a flow, or in
which column of a block. A colon may turn what came before it on its line into a
key, and then the tokens that open the mapping come before that.
-/

namespace VolumePricing.Yaml

/-- How many flows may be around a value. -/
def flowLimit : Nat := 255

/-- Ends a mapping that began without a sign in the innermost sequence of the flow. -/
def endUnsigned : Reader Unit :=
  modify fun s =>
    if s.unsigned.head? = some (some s.flowDepth) then
      { s with
        signed := false
        unsigned := none :: s.unsigned.drop 1
        tokens := s.tokens.push .flowMappingEnd }
    else s

def openFlow (isMapping : Bool) : Reader Unit := do
  markKey
  indentContinued
  if flowLimit ≤ (← get).flowDepth then failure
  modify fun s =>
    { s with
      keys := {} :: s.keys
      flowDepth := s.flowDepth + 1
      keyAllowed := true
      signed := s.signed || isMapping
      unsigned := if isMapping then s.unsigned else none :: s.unsigned }
  drop 1
  let _ ← toLineEnd true
  push (if isMapping then .flowMapping else .flowSequence)

def closeFlow (isMapping : Bool) : Reader Unit := do
  unmarkKey
  if !isMapping then
    endUnsigned
    modify fun s => { s with unsigned := s.unsigned.drop 1 }
  modify fun s =>
    { s with
      keys := if 0 < s.flowDepth then s.keys.drop 1 else s.keys
      flowDepth := s.flowDepth - 1
      keyAllowed := false }
  drop 1
  let _ ← toLineEnd true
  if ← inFlow then modify fun s => { s with adjacentAt := s.place.index }
  push (if isMapping then .flowMappingEnd else .flowSequenceEnd)

def commaSign : Reader Unit := do
  unmarkKey
  allowKey true
  endUnsigned
  drop 1
  let _ ← toLineEnd true
  push .comma

/-- The last token is a name or a tag at the start of a line. -/
def Cursor.endsAtMargin (s : Cursor) : Bool :=
  let isProperty := match s.tokens.back? with
    | some (.anchor _) | some (.tag _ _) => true
    | _ => false
  isProperty && s.keys.head?.any fun k => k.place.column = 0 && k.token + 1 = s.tokens.size

/-- A dash, which begins an item. What stands in one column with its dash is not indented. -/
def itemSign : Reader Unit := do
  let s ← get
  if 0 < s.flowDepth || !s.keyAllowed then failure
  let column := s.place.column
  if column = 0 && -1 < s.indent && s.endsAtMargin then failure
  drop 1
  openBlock column s.tokens.size .blockSequence
  let (hasTab, _) ← toLineEnd true
  let cs ← rest
  if hasTab && cs.head? = some '-' && endsWord (cs.drop 1) then failure
  let _ ← toLineEnd false
  if (← peek?).any fun c => c = '\n' || isFlowSign c then indentContinued
  unmarkKey
  allowKey true
  push .item

/-- A question mark, which begins a key of any size. -/
def keySign : Reader Unit := do
  let s ← get
  if s.flowDepth = 0 then
    if !s.keyAllowed then failure
    openBlock s.place.column s.tokens.size .blockMapping
  else set { s with signed := true }
  unmarkKey
  allowKey (s.flowDepth = 0)
  drop 1
  spaces ((← rest).length + 1) false
  if (← peek?) = some '\t' then failure
  push .key

/-- A tab alone does not set a value apart from its colon. -/
def afterColon : Reader Unit := do
  if (← peek?) = some '\t' then
    let (_, hasSpace) ← toLineEnd true
    if !hasSpace && (← peek?).any isHandleChar then failure

/-- Takes what came before for a key, in a mapping that begins there unless it has begun. -/
def keyBefore (key : KeyStart) (unsigned : Bool) : Reader Unit := do
  insert key.token .key
  if unsigned then
    if key.place.line < (← place).line then failure
    insert key.token .flowMapping
  openBlock key.place.column key.token .blockMapping
  indentContinued
  modify fun s => { s with keys := s.keys.modifyHead fun k : KeyStart => { k with possible := false } }
  allowKey false

/-- A colon, which ends a key and begins its value. -/
def valueSign : Reader Unit := do
  let s ← get
  let key := s.keys.headD {}
  let unsigned := !s.unsigned.isEmpty && !s.signed
  if unsigned then set { s with unsigned := some s.flowDepth :: s.unsigned.drop 1 }
  drop 1
  afterColon
  if key.possible then keyBefore key unsigned
  else
    if unsigned then push .flowMapping
    if s.flowDepth = 0 then
      if !s.keyAllowed then failure
      openBlock s.place.column (← get).tokens.size .blockMapping
    indentContinued
    allowKey (s.flowDepth = 0)
  push .value

/-- Three dashes or three points. Behind points the line ends. -/
def documentSign (isStart : Bool) : Reader Unit := do
  closeBlocks (-1)
  unmarkKey
  allowKey false
  drop 3
  push (if isStart then .documentStart else .documentEnd)
  if !isStart then
    let _ ← toLineEnd true
    if !endsLine (← rest) then failure

def directiveSign : Reader Unit := do
  closeBlocks (-1)
  unmarkKey
  allowKey false
  push (← directive)

/-- A token that may begin a key. -/
def keyed (keyAfter : Bool) (token : Reader Token) : Reader Unit := do
  markKey
  allowKey keyAfter
  push (← token)

/-- A text in quotes. A value may follow a key in quotes right behind the colon. -/
def quotedSign (quote : Char) : Reader Unit :=
  keyed false do
    let token ← quotedScalar quote
    solid
    modify fun s => { s with adjacentAt := s.place.index }
    return token

/-- The colon here ends a key. -/
def Cursor.isValueSign (s : Cursor) : Bool :=
  isColon (0 < s.flowDepth) s.rest ||
    (s.rest.head? = some ':' && 0 < s.flowDepth && s.place.index = s.adjacentAt)

/-- What begins with the character that comes next. -/
def sign (c : Char) : Reader Unit := do
  let s ← get
  let isAlone := endsWord (s.rest.drop 1)
  if c = '[' then openFlow false
  else if c = '\x7b' then openFlow true
  else if c = ']' then closeFlow false
  else if c = '\x7d' then closeFlow true
  else if c = ',' then commaSign
  else if c = '-' && isAlone then itemSign
  else if c = '?' && isAlone then keySign
  else if s.isValueSign then valueSign
  else if c = '*' then keyed false do return .reference (← name)
  else if c = '&' then keyed false do return .anchor (← name)
  else if c = '!' then keyed false tagToken
  else if (c = '|' || c = '>') && s.flowDepth = 0 then keyed true blockScalar
  else if isQuote c then quotedSign c
  else if c = '%' || c = '@' || c.toNat = 0x60 then failure
  else keyed false plainScalar

/-- What stands in a line of its own at its start. -/
def lineSign? : Reader (Option (Reader Unit)) := do
  let s ← get
  if s.place.column = 0 && s.rest.head? = some '%' then return some directiveSign
  else if ← isMark "---" then return some (documentSign true)
  else if ← isMark "..." then return some (documentSign false)
  else return none

/-- All blocks end with the text. -/
def finish : Reader Unit := do
  if (← get).keys.any fun k => k.possible && k.required then failure
  closeBlocks (-1)

def scan : Nat → Reader Unit
  | 0 => failure
  | fuel + 1 => do
    solid
    dropStaleKeys
    closeBlocks (← column)
    match ← peek? with
    | none => finish
    | some c => do
      match ← lineSign? with
      | some read => read
      | none => do
        if (← column) < (← get).indent then failure
        sign c
      scan fuel

/-- Lines end in one way, and the text ends where a character of no meaning stands. -/
def uniform : List Char → List Char
  | '\r' :: '\n' :: cs => '\n' :: uniform cs
  | '\r' :: cs => '\n' :: uniform cs
  | c :: cs => if c = '\x00' then [] else c :: uniform cs
  | [] => []

def tokens? (text : String) : Option (List Token) :=
  let cs := uniform text.toList
  ((scan (cs.length + 1)).run { rest := cs }).map fun (_, s) => s.tokens.toList

end VolumePricing.Yaml
