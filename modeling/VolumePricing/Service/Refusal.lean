import VolumePricing.Http.Message
import VolumePricing.Json.Decode
import VolumePricing.Store.Error
import VolumePricing.Tier.Basic

/-!
# Why a request is refused

Every reason has a status and a text. A request that could not even be read is
refused in words, all others with a JSON object. A failure of the storage is
not described to the outside.
-/

namespace VolumePricing

/-- Why a place in a path is no id: its bytes are no text, or its text is no number. -/
inductive PathFault
  | notText (place : String)
  | notNumber (text : String)
  deriving DecidableEq, Repr

def PathFault.message : PathFault → String
  | .notText place => "Invalid UTF-8 in `" ++ place ++ "`"
  | .notNumber text => "Cannot parse `" ++ text ++ "` to a `u32`"

inductive Refusal
  | missingToken
  | invalidToken
  | staffOnly
  | quantityNotPositive
  | costMissing
  | costUnreadable
  | noTiers
  | tier (fault : TierFault)
  | unknownTier
  | store (error : StoreError)
  | badPath (fault : PathFault)
  /-- A field of the query is given twice. -/
  | badQuery (field : String)
  | bodyType
  | bodyTooLarge
  | body (fault : Fault)
  deriving DecidableEq, Repr

namespace Refusal

def storeStatus : StoreError → Nat
  | .tierMissing _ => 404
  | .productMissing _ => 404
  | .cartMissing _ => 404
  | .lineMissing _ => 404
  | .defaultTierKept => 400
  | .storage _ => 500

def storeMessage (e : StoreError) : String :=
  match e with
  | .defaultTierKept => StoreError.defaultTierRule
  | .storage _ => "Internal Server Error"
  | e => e.missing?.getD "" ++ " not found"

def status : Refusal → Nat
  | .missingToken => 401
  | .invalidToken => 401
  | .staffOnly => 403
  | .quantityNotPositive => 400
  | .costMissing => 400
  | .costUnreadable => 400
  | .noTiers => 400
  | .tier _ => 400
  | .unknownTier => 404
  | .store e => storeStatus e
  | .badPath _ => 400
  | .badQuery _ => 400
  | .bodyType => 415
  | .bodyTooLarge => 413
  | .body .malformed => 400
  | .body .mismatch => 422

def error (message : String) : Http.Body := .json (.object [("error", .string message)])

def description : Refusal → Http.Body
  | .missingToken => error "missing bearer token"
  | .invalidToken => error "invalid token"
  | .staffOnly => error "admin or manager role required"
  | .quantityNotPositive => error "quantity must be positive"
  | .costMissing => error "cost_price is required"
  | .costUnreadable => error "cost_price must be a valid number"
  | .noTiers => error "no price tiers configured"
  | .tier fault => error fault.message
  | .unknownTier => error "price tier not found"
  | .store e => error (storeMessage e)
  | .badPath fault => .words ("Invalid URL: " ++ fault.message)
  | .badQuery field =>
    .words ("Failed to deserialize query string: duplicate field `" ++ field ++ "`")
  | .bodyType => .words "Expected request with `Content-Type: application/json`"
  | .bodyTooLarge => .words "Failed to buffer the request body: length limit exceeded"
  | .body .malformed => .words "Failed to parse the request body as JSON"
  | .body .mismatch => .words "Failed to deserialize the JSON body into the target type"

def response (r : Refusal) : Http.Response :=
  { status := r.status, headers := r.description.typeHeaders, body := r.description }

end Refusal

end VolumePricing
