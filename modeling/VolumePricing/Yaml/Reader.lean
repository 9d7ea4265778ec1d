import VolumePricing.Settings.Path
import VolumePricing.Yaml.Tokens
import VolumePricing.Yaml.Value

/-!
# Reading YAML

The tokens of a text form a tree of sequences and mappings, in blocks or in flows.
A value may be given a name and stand again wherever it is named. A file of
settings is one document, and that is a mapping.
-/

namespace VolumePricing.Yaml

/-- The tokens that are left, and what the names and the handles before them stand for. -/
structure Outline where
  tokens : List Token
  handles : List (String × String) := []
  /-- In the order in which they were given. A value is unknown until it has ended. -/
  names : Array (String × Value) := #[]

abbrev Former (α : Type) := StateT Outline Option α

namespace Former

def peek? : Former (Option Token) := return (← get).tokens.head?

def skip : Former Unit := modify fun o => { o with tokens := o.tokens.drop 1 }

/-- One of these tokens comes next. -/
def isAny (ts : List Token) : Former Bool := return (← peek?).any ts.contains

def require (t : Token) : Former Unit := do
  if ← isAny [t] then skip else failure

/-- What is said of a value before it. -/
structure Properties where
  /-- The number of its name. -/
  name : Option Nat := none
  tag : Option (String × String) := none

def enterName (name : String) : Former Nat := do
  let o ← get
  set { o with names := o.names.push (name, .unknown) }
  return o.names.size

/-- The tag that a handle and what is behind it stand for. A handle between exclamation marks has
to be known. -/
def resolveTag (handle suffix : String) : Former (String × String) := do
  match (← get).handles.lookup handle with
  | some meaning => return (meaning, suffix)
  | none =>
    if handle = "!!" then return (Value.coreHandle, suffix)
    else if isClosed handle.toList then failure
    else return (handle, suffix)

/-- A name and a tag in either order. -/
def properties : Nat → Properties → Former Properties
  | 0, p => return p
  | fuel + 1, p => do
    match ← peek? with
    | some (.anchor name) => do
      if p.name.isSome then return p
      skip
      properties fuel { p with name := some (← enterName name) }
    | some (.tag handle suffix) => do
      if p.tag.isSome then return p
      skip
      properties fuel { p with tag := some (← resolveTag handle suffix) }
    | _ => return p

/-- Remembers a value under its name. -/
def Properties.keep (p : Properties) (v : Value) : Former Value := do
  if let some i := p.name then
    modify fun o => { o with names := o.names.modify i fun n => (n.1, v) }
  return v

def Properties.scalar (p : Properties) (plain : Bool) (s : String) : Value :=
  if !plain then .text s
  else
    match p.tag with
    | some (handle, suffix) => .ofTagged handle suffix s
    | none => .ofPlain s

/-- The value that was given a name last. -/
def namedBefore (name : String) : Former Value := do
  match (← get).names.toList.reverse.lookup name with
  | some v => return v
  | none => failure

def ofRow (row : List Value) : Former Value :=
  match Value.ofRow? row with
  | some v => return v
  | none => failure

mutual

/-- A value. A sequence below a key may have its dashes in the column of the key, and then no
token opens it. -/
def node : Nat → Bool → Bool → Former Value
  | 0, _, _ => failure
  | fuel + 1, block, besideKey => do
    if let some (.reference name) ← peek? then
      skip
      return ← namedBefore name
    let p ← properties 2 {}
    match ← peek? with
    | some (.scalar plain s) => do
      skip
      p.keep (p.scalar plain s)
    | some .flowSequence => do
      skip
      p.keep (.sequence (← flowItems fuel true))
    | some .flowMapping => do
      skip
      p.keep (← ofRow (← flowRow fuel true))
    | t =>
      if t = some .item && besideKey then do
        p.keep (.sequence (← items fuel [.item, .key, .value, .blockEnd]))
      else if t = some .blockSequence && block then do
        skip
        let vs ← items fuel [.item, .blockEnd]
        require .blockEnd
        p.keep (.sequence vs)
      else if t = some .blockMapping && block then do
        skip
        p.keep (← ofRow (← blockRow fuel))
      else if p.name.isSome || p.tag.isSome then p.keep (p.scalar true "")
      else failure

/-- A value, unless a token comes next before which there is none. -/
def nodeUnless : Nat → List Token → Bool → Bool → Former Value
  | 0, _, _, _ => failure
  | fuel + 1, ends, block, besideKey => do
    if ← isAny ends then return .null else node fuel block besideKey

/-- The items of a block. -/
def items : Nat → List Token → Former (List Value)
  | 0, _ => failure
  | fuel + 1, ends => do
    if ← isAny [.item] then
      skip
      let v ← nodeUnless fuel ends true false
      return v :: (← items fuel ends)
    else return []

/-- The keys and values of a block in turn. -/
def blockRow : Nat → Former (List Value)
  | 0 => failure
  | fuel + 1 => do
    if ← isAny [.blockEnd] then
      skip
      return []
    else
      let ends := [.key, .value, .blockEnd]
      let key ←
        if ← isAny [.value] then pure .null
        else do
          require .key
          nodeUnless fuel ends true true
      let value ←
        if ← isAny [.value] then do
          skip
          nodeUnless fuel ends true true
        else pure .null
      return key :: value :: (← blockRow fuel)

/-- The keys and values in braces in turn. -/
def flowRow : Nat → Bool → Former (List Value)
  | 0, _ => failure
  | fuel + 1, isFirst => do
    if !isFirst && !(← isAny [.flowMappingEnd]) then require .comma
    if ← isAny [.flowMappingEnd] then
      skip
      return []
    else
      let ends := [.comma, .flowMappingEnd]
      let isKey ← isAny [.key]
      let isValue ← isAny [.value]
      if isKey then skip
      let key ←
        if isValue then pure .null
        else if isKey then nodeUnless fuel (.value :: ends) false false
        else node fuel false false
      let value ←
        if (isKey || isValue) && (← isAny [.value]) then do
          skip
          nodeUnless fuel ends false false
        else pure .null
      return key :: value :: (← flowRow fuel false)

/-- The items in brackets. A key makes an item a mapping of one member. -/
def flowItems : Nat → Bool → Former (List Value)
  | 0, _ => failure
  | fuel + 1, isFirst => do
    if !isFirst && !(← isAny [.flowSequenceEnd]) then require .comma
    if ← isAny [.flowSequenceEnd] then
      skip
      return []
    else if ← isAny [.key] then
      skip
      let ends := [.comma, .flowSequenceEnd]
      let key ←
        if ← isAny (.value :: ends) then do
          skip
          pure .null
        else node fuel false false
      let value ←
        if ← isAny [.value] then do
          skip
          nodeUnless fuel ends false false
        else pure .null
      let v ← ofRow [key, value]
      return v :: (← flowItems fuel false)
    else
      let v ← node fuel false false
      return v :: (← flowItems fuel false)

end

/-- Passes over the ends of documents. -/
def skipEnds : Former Unit :=
  modify fun o => { o with tokens := o.tokens.dropWhile (· = .documentEnd) }

/-- The directives before a document. Of the handles the last counts. -/
def directives : Nat → Bool → Former Unit
  | 0, _ => failure
  | fuel + 1, hasVersion => do
    match ← peek? with
    | some .version => do
      if hasVersion then failure
      skip
      modify fun o => { o with handles := [] }
      directives fuel true
    | some (.handle name meaning) => do
      skip
      modify fun o => { o with handles := [(name, meaning)] }
      directives fuel hasVersion
    | _ => return ()

/-- Nothing comes next that belongs to the document. -/
def isOver : Former Bool := do
  match ← peek? with
  | none | some .documentStart | some .documentEnd | some .version | some (.handle _ _) => return true
  | some _ => return false

/-- The only document. A text without any is an empty mapping. -/
def document : Former Value := do
  skipEnds
  if (← peek?).isNone then return .mapping []
  let length := (← get).tokens.length
  let isDirected := match ← peek? with
    | some .version | some (.handle _ _) => true
    | _ => false
  directives (length + 1) false
  if isDirected || (← isAny [.documentStart]) then require .documentStart
  let v ← if ← isOver then pure .null else node (4 * length + 4) true false
  skipEnds
  if (← peek?).isSome then failure
  return v

end Former

/-- The table that a text holds. -/
def parse? (text : String) : Option Settings.Table := do
  let (v, _) ← Former.document.run { tokens := ← tokens? text }
  match ← v.setting? with
  | .table members => some members
  | _ => none

end VolumePricing.Yaml
