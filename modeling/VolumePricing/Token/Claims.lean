import VolumePricing.Checked
import VolumePricing.Json.Decode
import VolumePricing.Json.Scan
import VolumePricing.Notice.Policy

/-!
# What a token claims

A token names a subject and a role, and the second at which it expires. The
clock of whoever checks it may be a minute late.
-/

namespace VolumePricing

structure Claims where
  subject : String
  role : String
  expires : UInt64
  deriving DecidableEq, Repr

/-- The second that an instant falls in. -/
def Instant.seconds (t : Instant) : Int := t.fdiv 1000000000

/-- The seconds that a calendar can show. -/
def Instant.firstSecond : Int := -8334601228800
def Instant.lastSecond : Int := 8210266876799

namespace Claims

/-- A lifetime is counted in seconds, in a word that may also be taken as negative. -/
def lifetimeSeconds (lifetime : UInt64) : Checked Int :=
  let seconds := lifetime.toInt64.toInt
  if seconds.natAbs * 1000 ≤ Int64.maxValue.toInt then .ok seconds else .error .seconds

/-- The second at which a token issued now expires. -/
def expiry (now : Instant) (lifetime : UInt64) : Checked UInt64 := do
  let seconds ← lifetimeSeconds lifetime
  let expires := now.seconds + seconds
  if Instant.firstSecond ≤ expires ∧ expires ≤ Instant.lastSecond then return UInt64.ofInt expires
  else throw .instant

/-- How far a clock may be off, in seconds. -/
def leeway : Int := 60

def liveAt (c : Claims) (now : Instant) : Bool := decide (now.seconds - leeway ≤ c.expires.toNat)

/-- The claims read so far. -/
structure Draft where
  subject : Option String := none
  role : Option String := none
  expires : Option UInt64 := none

open Json (Scan)
open Json.Scan

/-- Reads a string. -/
def textValue : Scan String := do
  expect '"'
  string

/-- Reads a whole number of 64 bits without a sign. -/
def wordValue : Scan UInt64 := do
  unless (← peekSolid?).any isNumberStart do failure
  match ← number with
  | .int n => if 0 ≤ n then return UInt64.ofNat n.toNat else failure
  | _ => failure

/-- Reads one member. Each claim is made once, and members that are no claims are passed over. -/
def Draft.read (name : String) (d : Draft) : Scan Draft := do
  match name with
  | "sub" => if d.subject.isSome then failure else return { d with subject := ← textValue }
  | "role" => if d.role.isSome then failure else return { d with role := ← textValue }
  | "exp" => if d.expires.isSome then failure else return { d with expires := ← wordValue }
  | _ =>
    skip ((← get).length + 1)
    return d

/-- The claims are the members of an object. -/
def ofBytes? (bytes : List UInt8) : Option Claims := do
  let d ← ofObject? Draft.read {} bytes
  return { subject := ← d.subject, role := ← d.role, expires := ← d.expires }

end Claims

instance : ToJson Claims :=
  ⟨fun c => .object [("sub", encode c.subject), ("role", encode c.role), ("exp", encode c.expires)]⟩

end VolumePricing
