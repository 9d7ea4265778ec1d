import VolumePricing.Digest.Sha256
import VolumePricing.Json.Reader
import VolumePricing.Json.Writer
import VolumePricing.Text.Base64
import VolumePricing.Text.Split
import VolumePricing.Token.Claims
import VolumePricing.Token.Header
import VolumePricing.Token.Limits

/-!
# Signed tokens

A token has three parts with dots between them: a header, the claims, and a
signature of these two under a shared secret. All three are written in letters.
Only one algorithm is accepted.
-/

namespace VolumePricing.Token

open Text (Base64.encode Base64.decode?)

def bytes (cs : List Char) : Digest.Bytes := (String.ofList cs).toUTF8.toList

def jsonPart (j : Json) : List Char := Base64.encode (bytes j.render.toList)

def signature (secret : String) (message : List Char) : List Char :=
  Base64.encode (Digest.hmacSha256 (bytes secret.toList) (bytes message))

def header (algorithm : String) : Json := .object [("typ", .string "JWT"), ("alg", .string algorithm)]

/-- A token with any header and claims. -/
def sign (secret : String) (header claims : Json) : String :=
  let message := jsonPart header ++ ['.'] ++ jsonPart claims
  String.ofList (message ++ ['.'] ++ signature secret message)

def issue (secret : String) (claims : Claims) : String :=
  sign secret (header Header.algorithm) (encode claims)

/-- The value of a part, if it is JSON. -/
def partJson? (part : List Char) : Option Json := do
  let bytes ← Base64.decode? part
  let text ← String.fromUTF8? ⟨bytes.toArray⟩
  Json.parse? .stepwise text

/-- The claims of a token whose signature is right, whose time is not over and which is not
addressed to others. -/
def verify (secret : String) (token : String) (now : Instant) : Option Claims :=
  match Text.splitAll '.' token.toList with
  | [head, body, mark] => do
    let header ← partJson? head
    let bytes ← Base64.decode? body
    let claims ← Claims.ofBytes? bytes
    let limits ← Limits.ofBytes? bytes
    if Header.isAccepted header ∧ mark = signature secret (head ++ ['.'] ++ body) ∧
        claims.liveAt now ∧ limits.expires = some claims.expires ∧ !limits.isAddressed then
      some claims
    else none
  | _ => none

end VolumePricing.Token

/-!
### Who may speak for whom

An authority issues tokens and checks them. The shop relies on nothing but the
claims that a check yields.
-/

namespace VolumePricing

structure Authority where
  /-- A token that names a subject and a role from now on. -/
  issue (subject role : String) (now : Instant) : Checked String
  verify (token : String) (now : Instant) : Option Claims

/-- The authority that signs with a secret. Its tokens last the given number of seconds. -/
def Authority.signing (secret : String) (lifetime : UInt64) : Authority where
  issue subject role now := do
    let expires ← Claims.expiry now lifetime
    return Token.issue secret { subject, role, expires }
  verify := Token.verify secret

namespace Role

def admin : String := "ADMIN"
def manager : String := "MANAGER"
def guest : String := "GUEST"

def isStaff (role : String) : Bool := role == admin || role == manager

end Role

end VolumePricing
