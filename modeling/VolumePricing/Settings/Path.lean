import VolumePricing.Decimal.Numeral
import VolumePricing.Settings.Value

/-!
# Paths into settings

A path begins with a name and goes on with a name behind a point or a place in
brackets, such as `server.port` or `auth[0]`. Working at the end of a path makes
whatever is missing on the way, and turns what is in the way into a table or a
list.
-/

namespace VolumePricing

namespace Settings

abbrev Table := List (String × Setting)

/-- Sets a member, in its place if there is one of that name. -/
def set (name : String) (value : Setting) : Table → Table
  | [] => [(name, value)]
  | m :: ms => if m.1 = name then (name, value) :: ms else m :: set name value ms

/-- The member of that name, or nothing. -/
def member (name : String) (table : Table) : Setting := (table.lookup name).getD .nothing

/-- One step of a path. A place below zero is counted from the end. -/
inductive Step
  | name (name : String)
  | place (index : Int)
  deriving DecidableEq, Repr

structure Path where
  root : String
  steps : List Step
  deriving DecidableEq, Repr

def isNameChar (c : Char) : Bool := c.isAlphanum || c = '_' || c = '-'

def isBlank (c : Char) : Bool := c = ' ' || c = '\t'

/-- The place in brackets, blanks around it allowed, and the rest behind the brackets. -/
def place? (cs : List Char) : Option (Int × List Char) :=
  let cs := cs.dropWhile isBlank
  let (negative, cs) :=
    match cs with
    | '-' :: cs => (true, cs)
    | cs => (false, cs)
  let (digits, rest) := Decimal.spanDigits cs
  let n : Int := Decimal.digitsValue digits
  let n := if negative then -n else n
  match rest.dropWhile isBlank with
  | ']' :: rest =>
    if digits.isEmpty || n < Int64.minValue.toInt || Int64.maxValue.toInt < n then none
    else some (n, rest)
  | _ => none

/-- The steps that a text denotes; the first argument is at least as long as the text. -/
def steps? : Nat → List Char → Option (List Step)
  | _, [] => some []
  | 0, _ => none
  | fuel + 1, '[' :: rest => do
    let (index, rest) ← place? rest
    return .place index :: (← steps? fuel rest)
  | fuel + 1, '.' :: rest =>
    match rest.takeWhile isNameChar with
    | [] => none
    | name => (steps? fuel (rest.dropWhile isNameChar)).map (.name (String.ofList name) :: ·)
  | _, _ => none

def Path.ofText? (text : String) : Option Path :=
  let cs := text.toList
  match cs.takeWhile isNameChar with
  | [] => none
  | root =>
    (steps? cs.length (cs.dropWhile isNameChar)).map fun steps => ⟨String.ofList root, steps⟩

/-- The path that a name stands for; a name that denotes no path is a path of its own. -/
def Path.ofName (name : String) : Path := (Path.ofText? name).getD ⟨name, []⟩

end Settings

open Settings

namespace Setting

/-- The members of a table; anything else has none. -/
def members : Setting → Table
  | .table ms => ms
  | _ => []

/-- The items of a list; anything else has none. -/
def items : Setting → List Setting
  | .list items => items
  | _ => []

/-- Works on the item at a place, which comes into being where the list is too short:
at its end, or at its front for a place counted from the end. -/
def atPlace (f : Setting → Setting) (index : Int) (items : List Setting) : List Setting :=
  let missing (n : Nat) : List Setting := List.replicate n .nothing
  match index with
  | .ofNat n =>
    let items := items ++ missing (n + 1 - items.length)
    items.modify n f
  | .negSucc n =>
    if n < items.length then items.modify (items.length - (n + 1)) f
    else (missing (n + 1 - items.length) ++ items).modify 0 f

/-- Works on what stands at the end of some steps. -/
def atSteps (f : Setting → Setting) : List Step → Setting → Setting
  | [], s => f s
  | .name name :: steps, s => .table (set name (atSteps f steps (member name s.members)) s.members)
  | .place index :: steps, s => .list (atPlace (atSteps f steps) index s.items)

mutual

/-- Lays a value over another: a table adds its members to those of a table, and anything
else takes the place of what was there. -/
def lay (value old : Setting) : Setting :=
  match value with
  | .table ms => .table (layMembers ms old.members)
  | value => value

def layMembers : List (String × Setting) → Table → Table
  | [], old => old
  | m :: ms, old => layMembers ms (set m.1 (lay m.2 (member m.1 old)) old)

end

end Setting

namespace Settings

/-- Lays a value over what stands at the end of a path. -/
def layAt (path : Path) (value : Setting) (table : Table) : Table :=
  set path.root ((member path.root table).atSteps (Setting.lay value) path.steps) table

/-- Lays a layer over a table; the names in a layer may be paths. -/
def overlay (table layer : Table) : Table :=
  layer.foldl (fun table m => layAt (.ofName m.1) m.2 table) table

end Settings

end VolumePricing
