import VolumePricing.Database.Talk

/-!
# Columns

A column holds values of one type. Ids are words without a sign to the shop and
with one to the database, bit by bit the same.
-/

namespace VolumePricing.Database

namespace Datum

def ofInt32 (n : Int32) : Datum := .int n.toInt
def ofInt64 (n : Int64) : Datum := .int n.toInt
def ofId (id : UInt32) : Datum := ofInt32 id.toInt32

def int32? : Datum → Option Int32
  | .int n => if (Int32.ofInt n).toInt = n then some (.ofInt n) else none
  | _ => none

def int64? : Datum → Option Int64
  | .int n => if (Int64.ofInt n).toInt = n then some (.ofInt n) else none
  | _ => none

def id? (d : Datum) : Option UInt32 := d.int32?.map Int32.toUInt32

def real? : Datum → Option Float
  | .real x => some x
  | .int n => some (.ofInt n)
  | _ => none

def bool? : Datum → Option Bool
  | .bool b => some b
  | _ => none

def text? : Datum → Option String
  | .text s => some s
  | _ => none

@[simp] theorem int32?_ofInt32 (n : Int32) : (ofInt32 n).int32? = some n := by
  simp [ofInt32, int32?]

@[simp] theorem int64?_ofInt64 (n : Int64) : (ofInt64 n).int64? = some n := by
  simp [ofInt64, int64?]

@[simp] theorem id?_ofId (id : UInt32) : (ofId id).id? = some id := by
  simp [ofId, id?]

theorem eq_ofInt32 {d : Datum} {n : Int32} (h : d.int32? = some n) : d = ofInt32 n := by
  cases d with
  | int m =>
    rw [int32?, Option.ite_none_right_eq_some] at h
    obtain ⟨hm, hn⟩ := h
    rw [ofInt32, ← Option.some.inj hn, hm]
  | _ => cases h

theorem eq_ofId {d : Datum} {id : UInt32} (h : d.id? = some id) : d = ofId id := by
  obtain ⟨n, hn, rfl⟩ := Option.map_eq_some_iff.mp h
  rw [eq_ofInt32 hn, ofId, Int32.toInt32_toUInt32]

end Datum

/-- The value of a named column, read as its type. -/
def Row.column? {α : Type} (r : Row) (read : Datum → Option α) (name : String) : Option α :=
  (r.lookup name).bind read

/-- The columns whose numbers are words of 32 bits. -/
def wordColumns : List String := ["id", "product_id", "order_index", "coalesce"]

/-- The number in the first column, which has to be one of words. -/
def Row.firstWord? (r : Row) : Option Int32 :=
  r.head?.bind fun c => if wordColumns.contains c.1 then c.2.int32? else none

end VolumePricing.Database
