import VolumePricing.Decimal.Numeral
import VolumePricing.Http.Message
import VolumePricing.Text.Blank
import VolumePricing.Text.Split

/-!
# Messages on the wire

A request begins with a line that names its method and its target. Lines with
headers follow, up to an empty line, and then as many bytes of text as the
headers announce. A response is written in the same order.
-/

namespace VolumePricing.Http

def trimBlanks (cs : List Char) : List Char :=
  ((cs.dropWhile Text.isBlankChar).reverse.dropWhile Text.isBlankChar).reverse

/-- The method and the target that the first line names. -/
def requestLine? (line : String) : Option (String × String) :=
  match Text.splitAll ' ' (trimBlanks line.toList) with
  | [method, target, _] => some (String.ofList method, String.ofList target)
  | _ => none

def headerLine? (line : String) : Option (String × String) :=
  match Text.splitFirst ':' line.toList with
  | ([], _) => none
  | (name, value) =>
    if line.toList.contains ':' then some (String.ofList name, String.ofList (trimBlanks value))
    else none

/-- The request that begins with these lines, before its text is read. -/
def Request.ofHead? : List String → Option Request
  | [] => none
  | first :: rest => do
    let (method, target) ← requestLine? first
    return { method, target, headers := ← rest.mapM headerLine? }

/-- The largest text that is read, in bytes. -/
def bodyLimit : Nat := 2097152

/-- How many bytes of text the headers announce. -/
def Request.bodySize (r : Request) : Nat :=
  match (header? r.headers "content-length").bind fun n =>
    Decimal.wholeNumber? 0 bodyLimit n.toList with
  | some n => n.toNat
  | none => 0

def lineEnd : String := "\r\n"

def headerLine (h : String × String) : String := h.1 ++ ": " ++ h.2 ++ lineEnd

/-- A response as it is sent. One that does not tell its length has no body. -/
def Response.render (r : Response) : String :=
  let length := if (header? r.headers "content-length").isSome then [] else r.body.lengthHeader
  "HTTP/1.1 " ++ toString r.status ++ " " ++ lineEnd ++
    String.join ((r.headers ++ length).map headerLine) ++ lineEnd ++ r.body.text

end VolumePricing.Http
