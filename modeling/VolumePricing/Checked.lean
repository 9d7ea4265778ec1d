/-!
# Arithmetic that notices its limits

Ids, priorities and quantities are words of fixed width. A sum or difference
that leaves the width has no value: it ends the computation with an
`Overflow`, which is kept apart from the errors a shopper or a member of staff
can cause. Each operation is the wrapping one, accepted only when it agrees
with the arithmetic of the integers.
-/

namespace VolumePricing

/-- Why a computation leaves the range of its words. -/
inductive Overflow
  | addition
  | subtraction
  | seconds
  | milliseconds
  | instant
  /-- More messages than a channel can count. -/
  | channelCount
  /-- More messages than fit into any memory. -/
  | channelSize
  deriving DecidableEq, Repr

def Overflow.message : Overflow → String
  | .addition => "attempt to add with overflow"
  | .subtraction => "attempt to subtract with overflow"
  | .seconds => "TimeDelta::seconds out of bounds"
  | .milliseconds => "TimeDelta::milliseconds out of bounds"
  | .instant => "`DateTime + TimeDelta` overflowed"
  | .channelCount => "broadcast channel capacity exceeded `usize::MAX / 2`"
  | .channelSize => "capacity overflow"

abbrev Checked (α : Type) := Except Overflow α

namespace Checked

def addInt64 (a b : Int64) : Checked Int64 :=
  if (a + b).toInt = a.toInt + b.toInt then .ok (a + b) else .error .addition

def subInt64 (a b : Int64) : Checked Int64 :=
  if (a - b).toInt = a.toInt - b.toInt then .ok (a - b) else .error .subtraction

def addInt32 (a b : Int32) : Checked Int32 :=
  if (a + b).toInt = a.toInt + b.toInt then .ok (a + b) else .error .addition

def addUInt32 (a b : UInt32) : Checked UInt32 :=
  if (a + b).toNat = a.toNat + b.toNat then .ok (a + b) else .error .addition

theorem addInt64_eq_ok {a b c : Int64} :
    addInt64 a b = .ok c ↔ c.toInt = a.toInt + b.toInt := by
  unfold addInt64
  split
  · rename_i h
    constructor
    · intro hc
      cases hc
      exact h
    · intro hc
      rw [Int64.toInt_inj.mp (hc.trans h.symm)]
  · rename_i h
    constructor
    · intro hc
      cases hc
    · intro hc
      refine absurd ?_ h
      rw [Int64.toInt_add, ← hc, Int64.toInt_bmod]

/-- A total of quantities, taken from left to right. -/
def sumInt64 (xs : List Int64) : Checked Int64 :=
  xs.foldlM addInt64 0

end Checked

end VolumePricing
