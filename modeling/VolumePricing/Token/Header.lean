import VolumePricing.Json.Basic

/-!
# The header of a token

A header names the algorithm of the signature and may describe the key. It is
taken as written: known members have to be of their kind and may be given once,
and all others have to be texts.
-/

namespace VolumePricing.Token.Header

def isText : Json → Bool
  | .string _ => true
  | _ => false

def isTexts : Json → Bool
  | .array items => items.all isText
  | _ => false

/-- The value is of that kind, or null. -/
def isOptional (kind : Json → Bool) : Json → Bool
  | .null => true
  | j => kind j

/-- One of several names, alone or as the only member of an object, which holds nothing. -/
def isName (names : List String) : Json → Bool
  | .string s => names.contains s
  | .object [(s, .null)] => names.contains s
  | _ => false

/-- Any name, alone or as the only member of an object, which holds nothing or is empty. -/
def isAnyName : Json → Bool
  | .string _ => true
  | .object [(_, .null)] => true
  | .object [(_, .object [])] => true
  | _ => false

/-- A member that may be there once: its name and the values it takes. -/
structure Kind where
  name : String
  takes : Json → Bool

/-- Every member that is of one of the kinds has a value it takes, and none comes twice. -/
def areOf (kinds : List Kind) (members : List (String × Json)) : Bool :=
  kinds.all fun k =>
    match members.filter (·.1 = k.name) with
    | [] => true
    | [m] => k.takes m.2
    | _ => false

/-- Like `areOf`, and there is a member of every kind. -/
def haveAll (kinds : List Kind) (members : List (String × Json)) : Bool :=
  areOf kinds members && kinds.all fun k => members.any (·.1 = k.name)

def optionalText (name : String) : Kind := ⟨name, isOptional isText⟩

def optionalTexts (name : String) : Kind := ⟨name, isOptional isTexts⟩

/-- What any key may say of itself. -/
def keyKinds : List Kind :=
  ["use", "kid", "x5u", "x5t", "x5t#S256"].map optionalText ++
    ["key_ops", "x5c"].map optionalTexts ++ [⟨"alg", isOptional isAnyName⟩]

def curve : Kind := ⟨"crv", isName ["P-256", "P-384", "P-521", "Ed25519"]⟩

def text (name : String) : Kind := ⟨name, isText⟩

def keyType (name : String) : Kind := ⟨"kty", isName [name]⟩

/-- The families of keys, each with what describes a key of it. -/
def families : List (List Kind) :=
  [[keyType "EC", curve, text "x", text "y"],
   [keyType "RSA", text "n", text "e"],
   [keyType "oct", text "k"],
   [keyType "OKP", curve, text "x"]]

/-- A key is an object that says all about a key of some family. -/
def isKey : Json → Bool
  | .object members =>
    let others := members.filter fun m => !keyKinds.any (·.name = m.1)
    areOf keyKinds members && families.any (haveAll · others)
  | _ => false

/-- The only algorithm that is accepted. -/
def algorithm : String := "HS256"

/-- The members that a header may have. -/
def kinds : List Kind :=
  ["typ", "cty", "jku", "kid", "x5u", "x5t", "x5t#S256", "enc", "zip", "url", "nonce"].map optionalText ++
    ["x5c", "crit"].map optionalTexts ++ [⟨"jwk", isOptional isKey⟩, ⟨"alg", isName [algorithm]⟩]

/-- How deep arrays and objects may stand inside one another. -/
def depthLimit : Nat := 127

/-- The value is a header for a signature that is accepted. -/
def isAccepted : Json → Bool
  | .object members =>
    (Json.object members).depth ≤ depthLimit &&
      areOf kinds members && members.any (·.1 = "alg") &&
      members.all fun m => kinds.any (·.name = m.1) || isText m.2
  | _ => false

end VolumePricing.Token.Header
