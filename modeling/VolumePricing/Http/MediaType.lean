/-!
# Media types

A media type is a type and a subtype, which may end in a suffix after a plus
sign, and parameters behind semicolons. Names are compared without regard to
case.
-/

namespace VolumePricing.Http

def tokenSymbols : List Char := "!#$%&*+-.^_`|~".toList ++ [Char.ofNat 39]

def isTokenChar (c : Char) : Bool := c.isAlphanum || tokenSymbols.contains c

/-- A character inside a quoted value; the quote that closes it is none unless it comes first. -/
def isQuotedChar (c : Char) : Bool := 0x20 ≤ c.toNat && c.toNat ≠ 0x7f

/-- The parameters behind a semicolon can be read. Each has a name and a value, which may be
quoted; a quoted value is not empty, and a plain one only at the very end. Nothing at all
needs to follow a semicolon. -/
def areParameters : Nat → List Char → Bool
  | _, [] => true
  | 0, _ => false
  | fuel + 1, ' ' :: cs => areParameters fuel cs
  | fuel + 1, cs =>
    let name := cs.takeWhile isTokenChar
    match cs.dropWhile isTokenChar with
    | '=' :: '"' :: c :: rest =>
      match rest.dropWhile fun c => isQuotedChar c && c ≠ '"' with
      | '"' :: rest =>
        match rest.dropWhile (· = ' ') with
        | [] => !name.isEmpty && isQuotedChar c
        | ';' :: rest => !name.isEmpty && isQuotedChar c && areParameters fuel rest
        | _ => false
      | _ => false
    | '=' :: rest =>
      match rest.dropWhile isTokenChar with
      | [] => !name.isEmpty
      | ';' :: more => !name.isEmpty && more.length + 1 < rest.length && areParameters fuel more
      | _ => false
    | _ => false

/-- The type says that what it describes is JSON: by its subtype up to the last plus sign, or
by the suffix behind it. A plus sign at the start of a subtype belongs to it. -/
def namesJson (kind subtype : List Char) : Bool :=
  let json := "json".toList
  let suffix := (subtype.reverse.takeWhile (· ≠ '+')).reverse
  let base := subtype.take (subtype.length - (suffix.length + 1))
  kind = "application".toList &&
    (if base.isEmpty then subtype = json else base = json || suffix = json)

def isVisible (c : Char) : Bool := c = '\t' || (0x20 ≤ c.toNat && c.toNat < 0x7f)

/-- A header value that describes JSON. -/
def isJsonType (value : String) : Bool :=
  let cs := value.toList.map Char.toLower
  let kind := cs.takeWhile isTokenChar
  cs.all isVisible &&
    match cs.dropWhile isTokenChar with
    | '/' :: rest =>
      let subtype := rest.takeWhile isTokenChar
      !subtype.isEmpty && namesJson kind subtype &&
        match rest.dropWhile isTokenChar with
        | [] => true
        | ';' :: parameters => areParameters parameters.length parameters
        | _ => false
    | _ => false

end VolumePricing.Http
