import VolumePricing.Json.Basic
import VolumePricing.Json.Reader

/-!
# Decoding JSON values

Nothing is converted: a string is no number and a fraction no count. A record
may be written as an object, whose unknown members are passed over, or as the
array of its fields in order. A value is taken apart in the order in which it
is written, so of two faults the earlier one is reported.
-/

namespace VolumePricing

/-- Why a value is not what was asked for: its text is no JSON, or its shape is another. -/
inductive Fault
  | malformed
  | mismatch
  deriving DecidableEq, Repr

abbrev Decoded (α : Type) := Except Fault α

class FromJson (α : Type) where
  decode : Json → Decoded α

class ToJson (α : Type) where
  encode : α → Json

export FromJson (decode)
export ToJson (encode)

/-- The fault of a value that is not of the shape asked for. -/
def Json.fault : Json → Fault
  | .unreadable => .malformed
  | .misnamed _ => .malformed
  | .cut => .malformed
  | _ => .mismatch

instance : FromJson Bool where
  decode
    | .bool b => .ok b
    | j => .error j.fault

instance : FromJson String where
  decode
    | .string s => .ok s
    | j => .error j.fault

instance : FromJson Float where
  decode
    | .int n => .ok (Float.ofInt n)
    | .real x => .ok x
    | j => .error j.fault

/-- An integer between the two bounds. -/
def Json.bounded (low high : Int) : Json → Decoded Int
  | .int n => if low ≤ n ∧ n ≤ high then .ok n else .error .mismatch
  | j => .error j.fault

instance : FromJson UInt32 where
  decode j := (j.bounded 0 (UInt32.size - 1)).map fun n => UInt32.ofNat n.toNat

instance : FromJson UInt64 where
  decode j := (j.bounded 0 (UInt64.size - 1)).map fun n => UInt64.ofNat n.toNat

instance : FromJson Int32 where
  decode j := (j.bounded Int32.minValue.toInt Int32.maxValue.toInt).map Int32.ofInt

instance : FromJson Int64 where
  decode j := (j.bounded Int64.minValue.toInt Int64.maxValue.toInt).map Int64.ofInt

instance {α : Type} [FromJson α] : FromJson (Option α) where
  decode
    | .null => .ok none
    | j => (decode j).map some

instance {α : Type} [FromJson α] : FromJson (List α) where
  decode
    | .array items => items.mapM decode
    | j => .error j.fault

instance : ToJson Json := ⟨id⟩
instance : ToJson Bool := ⟨.bool⟩
instance : ToJson String := ⟨.string⟩
instance : ToJson Float := ⟨Json.ofFloat⟩
instance : ToJson UInt32 := ⟨fun n => .int n.toNat⟩
instance : ToJson UInt64 := ⟨fun n => .int n.toNat⟩
instance : ToJson Int32 := ⟨fun n => .int n.toInt⟩
instance : ToJson Int64 := ⟨fun n => .int n.toInt⟩
instance : ToJson Nat := ⟨fun n => .int n⟩
instance {α : Type} [ToJson α] : ToJson (Option α) := ⟨Json.ofOption encode⟩
instance {α : Type} [ToJson α] : ToJson (List α) := ⟨fun xs => .array (xs.map encode)⟩

/-- When a field of a record may be left out. -/
inductive Absence
  | never
  | fromObjects
  | always
  deriving DecidableEq, Repr

/-- A field of a record: its name, the values it takes, and whether it may be absent. -/
structure Field where
  name : String
  check : Json → Decoded Unit
  absence : Absence

/-- A field holding a value of the given type. -/
def Field.of (α : Type) [FromJson α] (name : String) (absence : Absence := .never) : Field :=
  ⟨name, fun j => (decode j : Decoded α).map fun _ => (), absence⟩

/-- The fields of a record that were written, each once and with a value it takes. -/
abbrev Record := List (String × Json)

namespace Record

def has (r : Record) (name : String) : Bool := r.any fun m => m.1 == name

/-- The members of an object, of which those that are no fields are passed over: their text
need only be JSON, and only their own names have to denote something. -/
def ofMembers (fields : List Field) (seen : Record) : List (String × Json) → Decoded Record
  | [] =>
    if fields.all fun f => f.absence ≠ .never || seen.has f.name then .ok seen
    else .error .mismatch
  | (name, j) :: members =>
    match fields.find? fun f => f.name == name with
    | none => if j.named && j.intact then ofMembers fields seen members else .error .malformed
    | some f =>
      if seen.has name then .error .mismatch
      else
        match f.check j with
        | .error e => .error e
        | .ok () => ofMembers fields (seen ++ [(name, j)]) members

def ofItems : List Field → List Json → Decoded Record
  | [], [] => .ok []
  | [], _ :: _ => .error .malformed
  | f :: fields, [] => if f.absence = .always then ofItems fields [] else .error .mismatch
  | f :: fields, j :: items =>
    match f.check j with
    | .error e => .error e
    | .ok () => (ofItems fields items).map ((f.name, j) :: ·)

def read (fields : List Field) : Json → Decoded Record
  | .object members => ofMembers fields [] members
  | .array items => ofItems fields items
  | j => .error j.fault

variable {α : Type} [FromJson α]

def get? (r : Record) (name : String) : Decoded (Option α) :=
  match r.lookup name with
  | none => .ok none
  | some j => (decode j).map some

def get (r : Record) (name : String) : Decoded α :=
  match r.lookup name with
  | none => .error .mismatch
  | some j => decode j

def getD (r : Record) (name : String) (fallback : α) : Decoded α :=
  match r.lookup name with
  | none => .ok fallback
  | some j => decode j

/-- The value of an optional field, which may be absent or null. -/
def getOption (r : Record) (name : String) : Decoded (Option α) :=
  match r.lookup name with
  | none => .ok none
  | some j => decode j

end Record

end VolumePricing

/-!
### Decoding texts

A text is read and taken apart at once: a fault inside the value comes before
one behind it, such as a second value.
-/

namespace VolumePricing.Json

def decodeText (α : Type) [FromJson α] (text : String) : Decoded α :=
  let d := Document.ofText .stepwise text
  match (decode d.value : Decoded α) with
  | .error e => .error e
  | .ok a => if d.complete then .ok a else .error .malformed

end VolumePricing.Json
