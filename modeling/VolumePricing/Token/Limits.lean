import VolumePricing.Json.Scan

/-!
# What limits a token

Some members of a token limit it: when it expires and from when on it is good,
who it is about, who issued it and for whom. They are read leniently. One that
is not what it should be limits nothing, and the reading goes on behind what
was consumed of it; only a limit that is given twice, or a reading that does not
come out at the end, is a fault.
-/

namespace VolumePricing

structure Limits where
  /-- The limits that have been read. -/
  given : List String := []
  expires : Option UInt64 := none
  /-- The token is for some audience. -/
  isAddressed : Bool := false
  deriving DecidableEq, Repr

namespace Limits

open Json (Scan)
open Json.Scan

/-- Reads a time. An array or an object is left behind its opening unless it is empty. -/
def time : Scan UInt64 := do
  let some c ← peekSolid? | failure
  if isNumberStart c then
    match ← number with
    | .int n => if 0 ≤ n then return UInt64.ofNat n.toNat else failure
    | _ => failure
  else if c = '[' then
    drop
    closing failure closeArray
  else if c = '\x7b' then
    drop
    closing failure closeObject
  else
    let _ ← content 1 0
    failure

/-- Reads a name. An array or an object is left where it begins. -/
def name : Scan Unit := do
  let _ ← content 1 0

/-- One name, or a list of nothing but names. -/
def isNames : Json → Bool
  | .string _ => true
  | .array items => items.all fun
    | .string _ => true
    | _ => false
  | _ => false

/-- Reads one member; those that are no limits are passed over. -/
def read (member : String) (l : Limits) : Scan Limits := do
  if l.given.contains member then failure
  let known := { l with given := member :: l.given }
  let length := (← get : List UInt8).length
  match member with
  | "exp" => return { known with expires := ← attempt time }
  | "nbf" => do let _ ← attempt time; return known
  | "sub" => do let _ ← attempt name; return known
  | "iss" => do let _ ← attempt (content (length + 1) depthLimit); return known
  | "aud" => do
    let audience ← attempt (content (length + 1) depthLimit)
    return { known with isAddressed := audience.any isNames }
  | _ => do
    skip (length + 1)
    return l

def ofBytes? (bytes : List UInt8) : Option Limits := ofObject? read {} bytes

end Limits

end VolumePricing
