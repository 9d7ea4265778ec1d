import VolumePricing.Settings.Value

/-!
# The tables of a TOML document

A table comes into being in one of three ways: by a header of its own, by a
header of one of its parts, or by a dotted key. A key is set once. A header of
its own may come once for every table, and never for one that a dotted key
made; and a dotted key never reaches into a table with a header of its own, of
several tables in double brackets the last one apart. The key's last part goes
into a table that a dotted key made.
-/

namespace VolumePricing.Toml

inductive Origin
  /-- The table has a header of its own. -/
  | header
  /-- Only parts of the table have headers. -/
  | part
  | dotted
  deriving DecidableEq, Repr

inductive Node where
  | leaf (value : Setting)
  | table (origin : Origin) (members : List (String × Node))
  /-- One table for each header in double brackets. -/
  | tables (elements : List (List (String × Node)))
  deriving Inhabited

abbrev Members := List (String × Node)

/-- Sets a member, in its place if there is one of that name. -/
def Members.set (ms : Members) (name : String) (node : Node) : Members :=
  match ms with
  | [] => [(name, node)]
  | m :: rest => if m.1 = name then (name, node) :: rest else m :: Members.set rest name node

/-- Works on the members at the end of a path of headers. Tables that are missing on the
way come into being, and of several tables the last is meant. -/
def descend (f : Members → Option Members) : List String → Members → Option Members
  | [], ms => f ms
  | name :: path, ms =>
    match ms.lookup name with
    | none => (descend f path []).map fun sub => ms.set name (.table .part sub)
    | some (.table origin sub) => (descend f path sub).map fun sub => ms.set name (.table origin sub)
    | some (.tables elements) =>
      match elements.getLast? with
      | none => none
      | some last =>
        (descend f path last).map fun last => ms.set name (.tables (elements.dropLast ++ [last]))
    | some (.leaf _) => none

/-- Sets a value under a dotted key. -/
def insert (value : Setting) : List String → Members → Option Members
  | [], _ => none
  | [name], ms => if (ms.lookup name).isSome then none else some (ms.set name (.leaf value))
  | name :: path, ms =>
    match ms.lookup name with
    | none => (insert value path []).map fun sub => ms.set name (.table .dotted sub)
    | some (.table .dotted sub) =>
      (insert value path sub).map fun sub => ms.set name (.table .dotted sub)
    | some (.table .part sub) =>
      if path.length = 1 then none
      else (insert value path sub).map fun sub => ms.set name (.table .part sub)
    | some (.tables elements) =>
      match elements.getLast? with
      | none => none
      | some last =>
        if path.length = 1 then none
        else
          (insert value path last).map fun last => ms.set name (.tables (elements.dropLast ++ [last]))
    | _ => none

/-- Opens the table of a header. -/
def openTable (name : String) (ms : Members) : Option Members :=
  match ms.lookup name with
  | none => some (ms.set name (.table .header []))
  | some (.table .part sub) => some (ms.set name (.table .header sub))
  | _ => none

/-- Opens one more table of a header in double brackets. -/
def openElement (name : String) (ms : Members) : Option Members :=
  match ms.lookup name with
  | none => some (ms.set name (.tables [[]]))
  | some (.tables elements) => some (ms.set name (.tables (elements ++ [[]])))
  | _ => none

mutual

def Node.value : Node → Setting
  | .leaf value => value
  | .table _ members => .table (membersValue members)
  | .tables elements => .list (elementsValue elements)

def membersValue : List (String × Node) → List (String × Setting)
  | [] => []
  | m :: ms => (m.1, m.2.value) :: membersValue ms

def elementsValue : List (List (String × Node)) → List Setting
  | [] => []
  | ms :: rest => .table (membersValue ms) :: elementsValue rest

end

end VolumePricing.Toml
