import VolumePricing.Pattern.Bracket

/-!
# Reading patterns

A text is a pattern if its groups and classes are closed, a repetition has
something to repeat, and nothing stands where the flags do not allow it. Patterns
are not nested without end. A brace never closes in the patterns read here, so
one that opens a counted repetition is a fault.
-/

namespace VolumePricing.Pattern

/-- Flags that are set or taken back. -/
structure Change where
  on : List Char := []
  off : List Char := []
  negated : Bool := false
  deriving DecidableEq, Repr

/-- The last sign is a minus, which takes nothing back. -/
def Change.isOpen (c : Change) : Bool := c.negated && c.off.isEmpty

def Change.isEmpty (c : Change) : Bool := c.on.isEmpty && c.off.isEmpty

/-- Flags up to a colon or a parenthesis. None comes twice. -/
def change : Nat → Change → Reader Change
  | 0, _ => failure
  | fuel + 1, ch => do
    let some c ← peek? | failure
    if c = ':' || c = ')' then
      require !ch.isOpen
      return ch
    else
      drop 1
      if c = '-' then
        require !ch.negated
        change fuel { ch with negated := true }
      else
        require ("ismUuRx".toList.contains c && !ch.on.contains c && !ch.off.contains c)
        change fuel (if ch.negated then { ch with off := c :: ch.off } else { ch with on := c :: ch.on })

def Change.apply (ch : Change) (f : Flags) : Flags :=
  ⟨set 'u' f.wide, set 'i' f.caseless, set 'x' f.spaced⟩
where
  set (c : Char) (old : Bool) : Bool := ch.on.contains c || (old && !ch.off.contains c)

/-- The name of a group, up to its closing bracket. No two groups have the same. -/
def groupName : Reader Unit := do
  let cs ← rest
  let name := cs.takeWhile (· ≠ '>')
  let s ← get
  require ((name.head?.any fun c => c = '_' || Text.isAlphabetic c) &&
    name.all (fun c => Text.isWordChar c || "_.[]".toList.contains c) &&
    name.length < cs.length && !s.names.contains name)
  set { s with rest := cs.drop (name.length + 1), names := name :: s.names }

/-- What a parenthesis opens: a group, for which there are flags, or flags alone. -/
inductive Opening
  | group (flags : Flags)
  | alone
  deriving DecidableEq, Repr

def opening : Reader Opening := do
  drop 1
  skipSpace
  let f ← flags
  match ← rest with
  | '?' :: 'P' :: '<' :: _ => do
    drop 3
    groupName
    return .group f
  | '?' :: '<' :: _ => do
    drop 2
    groupName
    return .group f
  | '?' :: _ => do
    drop 1
    let ch ← change ((← rest).length + 1) {}
    let isAlone := (← peek?) = some ')'
    drop 1
    if isAlone then
      require !ch.isEmpty
      modify fun s => { s with flags := ch.apply s.flags }
      return .alone
    else return .group (ch.apply f)
  | _ => return .group f

/-- A part that stands by itself. -/
def atom : Reader Unit := do
  let some c ← peek? | failure
  let a ← if c = '\\' then escape else do
    drop 1
    pure (if c = '.' then .any else if c = '^' || c = '$' then .anchor else .literal c false)
  require ((← flags).allow a)

/-- A part of a pattern, which can be repeated unless it only sets flags. -/
structure Part where
  shape : Shape
  repeatable : Bool := true

mutual

/-- The parts up to a bar, a closing parenthesis or the end, the last one first. -/
def parts : Nat → List Part → Reader (List Part)
  | 0, _ => failure
  | fuel + 1, before => do
    skipSpace
    match ← peek? with
    | none => return before
    | some c =>
      if c = ')' || c = '|' then return before
      else if c = '(' then do
        let outer ← flags
        match ← opening with
        | .alone => parts fuel (⟨.leaf, false⟩ :: before)
        | .group inner => do
          modify fun s => { s with flags := inner }
          let branches ← branches fuel
          require ((← peek?) = some ')')
          drop 1
          modify fun s => { s with flags := outer }
          parts fuel (⟨.node [.ofList branches], true⟩ :: before)
      else if c = '[' then do
        let shape ← bracket ((← rest).length + 1)
        parts fuel (⟨shape, true⟩ :: before)
      else if "*+?".toList.contains c then do
        let some last := before.head? | failure
        require last.repeatable
        drop 1
        if (← peek?) = some '?' then drop 1
        parts fuel (⟨.node [last.shape], true⟩ :: before.drop 1)
      else do
        require (c ≠ '\x7b')
        atom
        parts fuel (⟨.leaf, true⟩ :: before)

/-- The branches of a group, with bars between them. -/
def branches : Nat → Reader (List Shape)
  | 0 => failure
  | fuel + 1 => do
    let branch := Shape.ofList ((← parts fuel []).map (·.shape))
    if (← peek?) = some '|' then
      drop 1
      return branch :: (← branches fuel)
    else return [branch]

end

/-- How deep the parts of a pattern may be nested. -/
def depthLimit : Nat := 250

/-- The text is a pattern. -/
def isPattern (cs : List Char) : Bool :=
  match (branches (2 * cs.length + 2)).run { rest := cs } with
  | some (ss, s) => s.rest.isEmpty && (Shape.ofList ss).depth ≤ depthLimit
  | none => false

end VolumePricing.Pattern
