import VolumePricing.Ron.Number
import VolumePricing.Settings.Path

/-!
# Reading RON

A structure is written in parentheses, with or without a name before it, and its
fields have names or are a row. Lists stand in brackets and tables in braces. A
value that is there or not is `Some` of it or `None`. A file may ask for
extensions, by which more is left out.
-/

namespace VolumePricing.Ron

structure Extensions where
  /-- What is there needs no `Some`. -/
  implicitSome : Bool := false
  /-- The fields of a structure may stand in `Some` without parentheses of their own. -/
  unwrapVariants : Bool := false
  deriving DecidableEq, Repr

/-- A field of a structure comes next: a name with a colon behind it. -/
def isField (cs : List Char) : Option Bool := do
  match name? cs with
  | some (_, rest) => return (← solid? rest).head? = some ':'
  | none => return false

def skipOr {α : Type} (read? : List Char → Option (α × List Char)) (cs : List Char) : List Char :=
  ((read? cs).map fun r => r.2).getD cs

/-- More values follow behind a comma before the parenthesis is closed; the number says how many
are open. -/
def isRow : Nat → Nat → List Char → Option Bool
  | 0, _, _ => none
  | _ + 1, 0, _ => some false
  | fuel + 1, depth + 1, cs => do
    let cs := skipOr quoted? (skipOr character? (← solid? cs))
    match cs with
    | [] => none
    | c :: rest =>
      if "([\x7b".toList.contains c then isRow fuel (depth + 2) rest
      else if ")]\x7d".toList.contains c then isRow fuel depth rest
      else if c = ',' && depth = 0 then return (← solid? rest).head? ≠ some ')'
      else isRow fuel (depth + 1) rest

/-- How many structures, lists and tables and their members may be one inside another. -/
def depthLimit : Nat := 128

/-- One level deeper, if that is allowed. -/
def deeper? : Nat → Option Nat
  | 0 => none
  | depth + 1 => some depth

/-- The name of a member of a table: a text or a character. -/
def memberName? (cs : List Char) : Option (String × List Char) :=
  match quoted? cs with
  | some r => some r
  | none => (character? cs).map fun (c, rest) => (String.singleton c, rest)

mutual

/-- A value; the first number is the fuel, the second how much deeper it may go. -/
def value? (e : Extensions) : Nat → Nat → List Char → Option (Setting × List Char)
  | 0, _, _ => none
  | fuel + 1, depth, cs => do
    match name? cs, word? cs with
    | _, some (x, rest) => return (.real x, rest)
    | some (name, rest), none => named? e fuel depth name rest
    | none, none =>
      match cs with
      | '[' :: rest => do
        let (items, rest) ← items? e fuel ']' (← deeper? depth) rest
        return (.list items, rest)
      | '\x7b' :: rest => do
        let (members, rest) ← members? e fuel memberName? '\x7d' (← deeper? depth) [] rest
        return (.table members, rest)
      | '(' :: ')' :: rest => return (.nothing, rest)
      | '(' :: rest => structure? e fuel depth rest
      | _ =>
        if beginsNumber cs then numbers? cs
        else
          match memberName? cs with
          | some (s, rest) => return (.text s, rest)
          | none => do
            let (b, rest) ← byte? cs
            return (.int b.toNat, rest)

/-- What a name begins: a switch, a value that is there or not, or a structure, which is nothing
without parentheses. -/
def named? (e : Extensions) : Nat → Nat → Name → List Char → Option (Setting × List Char)
  | 0, _, _, _ => none
  | fuel + 1, depth, name, rest => do
    if name = ⟨"true", false⟩ then return (.bool true, rest)
    else if name = ⟨"false", false⟩ then return (.bool false, rest)
    else if name = ⟨"None", false⟩ then return (.nothing, rest)
    else
      match ← solid? rest with
      | '(' :: inner => do
        if name = ⟨"Some", false⟩ then
          let (value, rest) ← inner? e fuel (← deeper? depth) (← solid? inner)
          let (_, rest) ← comma? rest
          let ')' :: rest := rest | none
          return (value, rest)
        else structure? e fuel depth inner
      | rest =>
        if name = ⟨"Some", false⟩ then
          if e.implicitSome then value? e fuel (← deeper? depth) rest else none
        else return (.nothing, rest)

/-- What stands in `Some`. With the extension it may be the fields of a structure. -/
def inner? (e : Extensions) : Nat → Nat → List Char → Option (Setting × List Char)
  | 0, _, _ => none
  | fuel + 1, depth, cs => do
    if !e.unwrapVariants then value? e fuel depth cs
    else if cs.head? = some ')' then return (.nothing, cs)
    else if ← isField cs then
      let (fields, rest) ← members? e fuel plainName? ')' (← deeper? depth) [] cs
      return (.table fields, ')' :: rest)
    else if ← isRow (cs.length + 1) 1 cs then
      let (items, rest) ← items? e fuel ')' (← deeper? depth) cs
      return (.list items, ')' :: rest)
    else value? e fuel depth cs

/-- A structure, whose parenthesis is read: fields with names, or a row. -/
def structure? (e : Extensions) : Nat → Nat → List Char → Option (Setting × List Char)
  | 0, _, _ => none
  | fuel + 1, depth, cs => do
    let cs ← solid? cs
    if ← isField cs then
      let (fields, rest) ← members? e fuel plainName? ')' (← deeper? depth) [] cs
      return (.table fields, rest)
    else
      let (items, rest) ← items? e fuel ')' (← deeper? depth) cs
      return (.list items, rest)

/-- Values with commas between them, up to the closing character. -/
def items? (e : Extensions) : Nat → Char → Nat → List Char → Option (List Setting × List Char)
  | 0, _, _, _ => none
  | fuel + 1, close, depth, cs => do
    let cs ← solid? cs
    if cs.head? = some close then return ([], cs.drop 1)
    else
      let (item, rest) ← value? e fuel (← deeper? depth) cs
      let (hasComma, rest) ← comma? rest
      if hasComma then
        let (items, rest) ← items? e fuel close depth rest
        return (item :: items, rest)
      else if rest.head? = some close then return ([item], rest.drop 1)
      else none

/-- Values with names and commas between them, up to the closing character. -/
def members? (e : Extensions) : Nat → (List Char → Option (String × List Char)) → Char → Nat →
    Settings.Table → List Char → Option (Settings.Table × List Char)
  | 0, _, _, _, _, _ => none
  | fuel + 1, name?, close, depth, table, cs => do
    let cs ← solid? cs
    if cs.head? = some close then return (table, cs.drop 1)
    else
      let inner ← deeper? depth
      let (name, rest) ← name? cs
      let ':' :: rest ← solid? rest | none
      let (value, rest) ← value? e fuel inner (← solid? rest)
      let table := Settings.set name value table
      let (hasComma, rest) ← comma? rest
      if hasComma then members? e fuel name? close depth table rest
      else if rest.head? = some close then return (table, rest.drop 1)
      else none

end

/-- The extensions that a file may ask for, each as a change to those asked for before. -/
def requests : List (String × (Extensions → Extensions)) :=
  [("unwrap_newtypes", id), ("implicit_some", ({ · with implicitSome := true })),
   ("unwrap_variant_newtypes", ({ · with unwrapVariants := true })), ("explicit_struct_names", id)]

/-- Extensions with commas between them, up to the closing parenthesis. -/
def requested? : Nat → Extensions → List Char → Option (Extensions × List Char)
  | 0, _, _ => none
  | fuel + 1, e, cs => do
    let (name, rest) ← plainName? cs
    let change ← requests.lookup name
    let (hasComma, rest) ← comma? rest
    if hasComma && rest.head?.any Text.continuesName then requested? fuel (change e) rest
    else
      let ')' :: rest := rest | none
      return (change e, rest)

/-- What stands in brackets at the start of a file: a request for extensions, or where the file
is described, which says nothing. -/
def attribute? (e : Extensions) (cs : List Char) : Option (Extensions × List Char) := do
  let ("enable", rest) ← plainName? cs
    | do
      let (name, rest) ← plainName? cs
      if name ≠ "schema" && name ≠ "type" then none
      let '=' :: rest ← solid? rest | none
      let (_, rest) ← quoted? (← solid? rest)
      return (e, rest)
  let '(' :: rest ← solid? rest | none
  requested? (rest.length + 1) e (← solid? rest)

/-- The attributes at the start of a file, and the rest. -/
def attributes? : Nat → Extensions → List Char → Option (Extensions × List Char)
  | 0, _, _ => none
  | fuel + 1, e, cs => do
    match ← solid? cs with
    | '#' :: rest =>
      let '!' :: rest ← solid? rest | none
      let '[' :: rest ← solid? rest | none
      let (e, rest) ← attribute? e (← solid? rest)
      let ']' :: rest ← solid? rest | none
      attributes? fuel e rest
    | rest => return (e, rest)

/-- The table that a text holds. -/
def parse? (text : String) : Option Settings.Table := do
  let (e, cs) ← attributes? (text.length + 1) {} text.toList
  let (.table members, rest) ← value? e (4 * text.length + 4) depthLimit cs | none
  if (← solid? rest).isEmpty then some members else none

end VolumePricing.Ron
