import VolumePricing.Json.Writer

/-!
# Requests and responses

A request names a method and a target and carries headers and a text. The body
of a response is JSON, or words, or a stream of notices for one shopper.
-/

namespace VolumePricing.Http

structure Request where
  method : String
  target : String
  headers : List (String × String) := []
  body : String := ""
  deriving DecidableEq, Repr

/-- Header names are compared without regard to case. -/
def sameName (a b : String) : Bool := a.toLower == b.toLower

/-- The first header of that name. -/
def header? (headers : List (String × String)) (name : String) : Option String :=
  (headers.find? fun h => sameName h.1 name).map (·.2)

namespace Request

/-- A target that names a scheme and an authority before its path, without them. Its path
is at least the root. -/
def withoutAuthority (target : List Char) : List Char :=
  let scheme := target.takeWhile (· ≠ ':')
  match target.drop scheme.length with
  | ':' :: '/' :: '/' :: rest =>
    let behind := rest.dropWhile fun c => c ≠ '/' && c ≠ '?' && c ≠ '#'
    if scheme.isEmpty || !scheme.all isSchemeChar || behind.length = rest.length then target
    else if behind.head? = some '/' then behind
    else '/' :: behind
  | _ => target
where
  isSchemeChar (c : Char) : Bool := c.isAlphanum || c = '+' || c = '-' || c = '.'

/-- The path and the query that a request is about, before a fragment. -/
def address (r : Request) : List Char :=
  (withoutAuthority r.target.toList).takeWhile (· ≠ '#')

def path (r : Request) : List Char := r.address.takeWhile (· ≠ '?')

def query (r : Request) : List Char := (r.address.dropWhile (· ≠ '?')).drop 1

end Request

inductive Body
  | empty
  | json (value : Json)
  | words (text : String)
  | notices (user : String)

structure Response where
  status : Nat
  headers : List (String × String) := []
  body : Body := .empty

namespace Body

/-- The text of a body. Notices are sent as they come and are no part of it. -/
def text : Body → String
  | .empty => ""
  | .json value => value.render
  | .words text => text
  | .notices _ => ""

/-- The header that tells the length of the body in bytes, where it is known before the end. -/
def lengthHeader : Body → List (String × String)
  | .notices _ => []
  | body => [("content-length", toString body.text.utf8ByteSize)]

/-- The headers that describe the body. Notices are of one moment only. -/
def typeHeaders : Body → List (String × String)
  | .empty => []
  | .json _ => [("content-type", "application/json")]
  | .words _ => [("content-type", "text/plain; charset=utf-8")]
  | .notices _ => [("content-type", "text/event-stream"), ("cache-control", "no-cache")]

end Body

namespace Response

def withHeaders (r : Response) (headers : List (String × String)) : Response :=
  { r with headers := r.headers ++ headers }

/-- The response without its body, which its headers still describe. -/
def withoutBody (r : Response) : Response := { r with body := .empty }

end Response

end VolumePricing.Http
