import VolumePricing.Decimal.Numeral
import VolumePricing.Http.MediaType
import VolumePricing.Http.Message
import VolumePricing.Json.Decode
import VolumePricing.Service.Refusal
import VolumePricing.Text.Form

/-!
# Reading requests

What an endpoint needs is taken from the token, the path, the query and the
body of a request. Each reading fails with a refusal of its own.
-/

namespace VolumePricing

abbrev Extracted (α : Type) := Except Refusal α

namespace Extract

/-- The id written at the place of that name in the path. -/
def id (name : String) (place : List Char) : Extracted UInt32 :=
  match Text.percentDecode? place with
  | none => .error (.badPath (.notText name))
  | some text =>
    match Decimal.wholeNumber? 0 (UInt32.size - 1) text.toList with
    | some n => .ok (UInt32.ofNat n.toNat)
    | none => .error (.badPath (.notNumber text))

/-- The first name that has been there before. -/
def repeated? : List String → List String → Option String
  | _, [] => none
  | seen, name :: names => if seen.contains name then some name else repeated? (name :: seen) names

/-- The fields of a query that are known, each of which may be given once. -/
def query (known : List String) (r : Http.Request) : Extracted (List (String × String)) :=
  let fields := (Text.formFields r.query).filter fun f => known.contains f.1
  match repeated? [] (fields.map (·.1)) with
  | none => .ok fields
  | some name => .error (.badQuery name)

/-- The largest body that is read. -/
def bodyLimit : Nat := 2097152

def body (α : Type) [FromJson α] (r : Http.Request) : Extracted α :=
  if ((Http.header? r.headers "content-type").map Http.isJsonType).getD false then
    if bodyLimit < r.body.utf8ByteSize then .error .bodyTooLarge
    else (Json.decodeText α r.body).mapError .body
  else .error .bodyType

/-- The text behind the scheme of the authorization header, which has to be plain text. -/
def bearer? (r : Http.Request) : Option String :=
  match (Http.header? r.headers "authorization").map String.toList with
  | some ('B' :: 'e' :: 'a' :: 'r' :: 'e' :: 'r' :: ' ' :: token) =>
    if token.all fun c => c = '\t' || (0x20 ≤ c.toNat && c.toNat < 0x7f) then
      some (String.ofList token)
    else none
  | _ => none

end Extract

end VolumePricing
