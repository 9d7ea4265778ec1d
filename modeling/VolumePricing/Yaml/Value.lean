import VolumePricing.Settings.Value
import VolumePricing.Text.Hex

/-!
# Values in YAML

A plain scalar is a number, a switch or nothing by the look of it, unless a tag
says what it is; any other scalar is a text. A number that is not whole keeps its
writing. What is a key may be of any kind, and a mapping has no key twice.
-/

namespace VolumePricing.Yaml

inductive Value where
  /-- A value that is not what its tag says, or is named before it is known. -/
  | unknown
  | null
  | bool (b : Bool)
  | int (n : Int)
  /-- A number that is not whole, as it is written. -/
  | real (text : String)
  | text (s : String)
  | sequence (items : List Value)
  | mapping (members : List (Value × Value))
  deriving BEq, Inhabited

namespace Value

/-- A whole number of 64 bits. -/
def whole? (cs : List Char) : Option Int :=
  Decimal.wholeNumber? Int64.minValue.toInt Int64.maxValue.toInt cs

/-- The same, with digits of another base. -/
def wholeIn? (base : Nat) (cs : List Char) : Option Int := do
  let (negative, cs) := Decimal.spanSign cs
  let ds ← cs.mapM Text.hexValue?
  if ds.isEmpty || ds.any fun d => base ≤ d.val then none
  let n : Int := ds.foldl (fun n d => base * n + d.val) 0
  let n := if negative then -n else n
  if Int64.minValue.toInt ≤ n ∧ n ≤ Int64.maxValue.toInt then some n else none

/-- A whole number behind a mark that says in which base it is or that it is positive. -/
def marked? : List Char → Option Int
  | '0' :: 'x' :: cs => wholeIn? 16 cs
  | '0' :: 'o' :: cs => wholeIn? 8 cs
  | '+' :: cs => whole? cs
  | _ => none

def bool? (s : String) : Option Bool :=
  if s = "true" || s = "True" || s = "TRUE" then some true
  else if s = "false" || s = "False" || s = "FALSE" then some false
  else none

def isNull (s : String) : Bool := ["~", "null", "Null", "NULL"].contains s

/-- The words for what is no finite number. -/
def unbounded : List String :=
  [".inf", ".Inf", ".INF", "+.inf", "+.Inf", "+.INF", "-.inf", "-.Inf", "-.INF", ".nan", ".NaN", ".NAN"]

/-- The text is a number, if only in the look of it. -/
def isNumber (s : String) : Bool :=
  unbounded.contains s || (s.toList.any Char.isDigit && (Decimal.freeNumber? s).isSome)

/-- The value of a plain scalar without a tag. -/
def ofPlain (s : String) : Value :=
  match marked? s.toList with
  | some n => .int n
  | none =>
    if s = "" || isNull s then .null
    else
      match bool? s, whole? s.toList with
      | some b, _ => .bool b
      | none, some n => .int n
      | none, none => if isNumber s then .real s else .text s

/-- What the tags of the language itself begin with. -/
def coreHandle : String := "tag:yaml.org,2002:"

/-- The value of a plain scalar under a tag. -/
def ofTagged (handle suffix s : String) : Value :=
  if handle ≠ coreHandle then .text s
  else
    match suffix with
    | "bool" => (bool? s).elim .unknown .bool
    | "int" => (whole? s.toList).elim .unknown .int
    | "float" => if isNumber s then .real s else .unknown
    | "null" => if isNull s then .null else .unknown
    | _ => .text s

/-- The mapping of keys and values in turn. A key of which nothing is known is passed over, and
what comes next is taken for the key. -/
def ofRow? (row : List Value) : Option Value := (pairs row none []).map .mapping
where
  pairs : List Value → Option Value → List (Value × Value) → Option (List (Value × Value))
    | [], _, members => some members
    | .unknown :: row, none, members => pairs row none members
    | key :: row, none, members => pairs row (some key) members
    | value :: row, some key, members =>
      if members.any fun m => m.1 == key then none
      else pairs row none (members ++ [(key, value)])

/-- The name that a key is for a setting. -/
def name? : Value → Option String
  | .text s => some s
  | .int n => some (toString n)
  | .bool b => some (if b then "true" else "false")
  | .real s => some s
  | _ => none

mutual

/-- The setting that a value is. A number has to be finite, and a name a word. -/
def setting? : Value → Option Setting
  | .unknown => some .nothing
  | .null => some .nothing
  | .bool b => some (.bool b)
  | .int n => some (.int n)
  | .real s => (Decimal.freeNumber? s).map .real
  | .text s => some (.text s)
  | .sequence items => (settings? items).map .list
  | .mapping members => (table? members []).map .table

def settings? : List Value → Option (List Setting)
  | [] => some []
  | v :: vs => do return (← setting? v) :: (← settings? vs)

/-- Keys of different kinds may have one name; then the last counts. -/
def table? : List (Value × Value) → List (String × Setting) → Option (List (String × Setting))
  | [], table => some table
  | (key, value) :: members, table => do
    let name ← name? key
    let value ← setting? value
    table? members
      (if table.any fun m => m.1 = name then
        table.map fun m => if m.1 = name then (name, value) else m
      else table ++ [(name, value)])

end

end Value

end VolumePricing.Yaml
