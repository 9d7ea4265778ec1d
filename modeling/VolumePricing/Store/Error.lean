/-!
# Why a store refuses

A store refuses a call because something is not there, because a rule of the
shop forbids it, or because its storage failed. Only the first two say anything
to the one who asked.
-/

namespace VolumePricing

/-- How storage can fail. -/
inductive StorageFailure
  /-- The storage reported a failure of its own. -/
  | reported (message : String)
  /-- The storage answered, but not with what was asked for. -/
  | unexpectedReply
  deriving DecidableEq, Repr

def StorageFailure.message : StorageFailure → String
  | .reported message => message
  | .unexpectedReply => "unexpected reply"

inductive StoreError
  | tierMissing (id : UInt32)
  | productMissing (id : UInt32)
  | cartMissing (user : String)
  | lineMissing (product : UInt32)
  | defaultTierKept
  | storage (failure : StorageFailure)
  deriving DecidableEq, Repr

namespace StoreError

/-- What is missing, in words. -/
def missing? : StoreError → Option String
  | .tierMissing id => some ("price tier " ++ toString id.toNat)
  | .productMissing id => some ("product " ++ toString id.toNat)
  | .cartMissing user => some ("cart of " ++ user)
  | .lineMissing product => some ("product " ++ toString product.toNat ++ " in cart")
  | .defaultTierKept => none
  | .storage _ => none

def defaultTierRule : String := "the default price tier cannot be deleted"

def message (e : StoreError) : String :=
  match e with
  | .defaultTierKept => "Rejected: " ++ defaultTierRule
  | .storage failure => "Storage error: " ++ failure.message
  | e => "Not found: " ++ e.missing?.getD ""

end StoreError

end VolumePricing
