import VolumePricing.Text.Category
import VolumePricing.Text.Hex

/-!
# Words and texts in RON

Values stand between spaces and comments. A comment goes to the end of its line
or stands between slashes with stars, one inside another. A name is made of
letters and digits, and one that is marked as raw may hold signs as well. A text
in quotes knows escapes, unless it is marked as raw.
-/

namespace VolumePricing.Ron

def isSpace (c : Char) : Bool :=
  [0x9, 0xA, 0xB, 0xC, 0xD, 0x20, 0x85, 0x200E, 0x200F, 0x2028, 0x2029].contains c.toNat

/-- The rest behind a comment, whose opening is read; the number says how many are open. -/
def skipComment? : Nat → List Char → Option (List Char)
  | _, [] => none
  | n, '/' :: '*' :: rest => skipComment? (n + 1) rest
  | 0, '*' :: '/' :: rest => some rest
  | n + 1, '*' :: '/' :: rest => skipComment? n rest
  | n, _ :: rest => skipComment? n rest

/-- The rest behind spaces and comments. -/
def skip? : Nat → List Char → Option (List Char)
  | 0, _ => none
  | fuel + 1, cs =>
    match cs.dropWhile isSpace with
    | '/' :: '/' :: rest => skip? fuel (rest.dropWhile (· ≠ '\n'))
    | '/' :: '*' :: rest => (skipComment? 0 rest).bind (skip? fuel)
    | rest => some rest

def solid? (cs : List Char) : Option (List Char) := skip? (cs.length + 1) cs

/-- The rest behind a comma, and whether there is one. -/
def comma? (cs : List Char) : Option (Bool × List Char) := do
  match ← solid? cs with
  | ',' :: rest => return (true, ← solid? rest)
  | rest => return (false, rest)

def apostrophe : Char := Char.ofNat 39

/-- The octet of two hexadecimal digits. -/
def octet? : List Char → Option (UInt8 × List Char)
  | high :: low :: rest => do
    let high ← Text.hexValue? high
    let low ← Text.hexValue? low
    return (UInt8.ofNat (16 * high.val + low.val), rest)
  | _ => none

/-- Octets with a backslash and a letter before each, up to something else. -/
def octets? : Nat → List Char → Option (List UInt8 × List Char)
  | 0, _ => none
  | fuel + 1, '\\' :: 'x' :: rest => do
    let (b, rest) ← octet? rest
    let (bs, rest) ← octets? fuel rest
    return (b :: bs, rest)
  | _ + 1, rest => some ([], rest)

/-- The character of one to six hexadecimal digits. -/
def coded? (digits : List Char) : Option Char := do
  let ds ← digits.mapM Text.hexValue?
  let n := ds.foldl (fun n d => 16 * n + d.val) 0
  if !ds.isEmpty && ds.length ≤ 6 && n.isValidChar then some (Char.ofNat n) else none

/-- The character of a letter behind a backslash. -/
def letterEscape? (c : Char) : Option Char :=
  if c = apostrophe then some c
  else [('"', '"'), ('\\', '\\'), ('n', '\n'), ('r', '\r'), ('t', '\t'), ('0', '\x00')].lookup c

/-- The characters of an escape, which begins with a backslash, and the rest. Characters beyond
ASCII take several octets, which have to stand together. -/
def escape? : List Char → Option (List Char × List Char)
  | '\\' :: 'x' :: rest => do
    let (bs, rest) ← octets? (rest.length + 1) ('\\' :: 'x' :: rest)
    let text ← String.fromUTF8? ⟨bs.toArray⟩
    return (text.toList, rest)
  | '\\' :: 'u' :: '\x7b' :: rest =>
    match rest.dropWhile (· ≠ '\x7d') with
    | _ :: behind => (coded? (rest.takeWhile (· ≠ '\x7d'))).map fun c => ([c], behind)
    | [] => none
  | '\\' :: c :: rest => (letterEscape? c).map fun c => ([c], rest)
  | _ => none

/-- A text up to its closing quote. A line end behind a backslash does not count, nor do the
spaces after it. -/
def text? : Nat → List Char → Option (List Char × List Char)
  | 0, _ => none
  | _ + 1, [] => none
  | _ + 1, '"' :: rest => some ([], rest)
  | fuel + 1, '\\' :: '\n' :: rest => text? fuel (rest.dropWhile isSpace)
  | fuel + 1, '\\' :: '\r' :: '\n' :: rest => text? fuel (rest.dropWhile isSpace)
  | fuel + 1, '\\' :: rest => do
    let (c, rest) ← escape? ('\\' :: rest)
    let (cs, rest) ← text? fuel rest
    return (c ++ cs, rest)
  | fuel + 1, c :: rest => (text? fuel rest).map fun (cs, rest) => (c :: cs, rest)

/-- A text without escapes, up to a quote with so many number signs behind it. -/
def rawText? (signs : Nat) : List Char → Option (List Char × List Char)
  | [] => none
  | c :: rest =>
    if c = '"' && (rest.take signs).length = signs && (rest.take signs).all (· = '#') then
      some ([], rest.drop signs)
    else (rawText? signs rest).map fun (cs, rest) => (c :: cs, rest)

/-- A text in quotes, raw or not. -/
def quoted? (cs : List Char) : Option (String × List Char) :=
  match cs with
  | '"' :: rest => (text? (rest.length + 1) rest).map fun (s, rest) => (String.ofList s, rest)
  | 'r' :: rest =>
    let signs := (rest.takeWhile (· = '#')).length
    match rest.drop signs with
    | '"' :: rest => (rawText? signs rest).map fun (s, rest) => (String.ofList s, rest)
    | _ => none
  | _ => none

/-- A character between apostrophes. -/
def character? : List Char → Option (Char × List Char)
  | a :: c :: rest => do
    if a ≠ apostrophe then none
    let ([c], b :: rest) ← if c = '\\' then escape? (c :: rest) else some ([c], rest) | none
    if b = apostrophe then some (c, rest) else none
  | _ => none

/-- The number of a character of ASCII between apostrophes, with a letter before. An octet may
have any number. -/
def byte? : List Char → Option (UInt8 × List Char)
  | 'b' :: a :: rest => do
    if a ≠ apostrophe then none
    let (b, rest) ←
      match rest with
      | '\\' :: 'x' :: rest => octet? rest
      | '\\' :: c :: rest => (letterEscape? c).map fun c => (c.toNat.toUInt8, rest)
      | c :: rest => if c.toNat < 0x80 then some (c.toNat.toUInt8, rest) else none
      | [] => none
    if rest.head? = some apostrophe then some (b, rest.drop 1) else none
  | _ => none

def beginsName (c : Char) : Bool := c = '_' || Text.beginsName c

/-- A character of a raw name. -/
def isRawChar (c : Char) : Bool := Text.continuesName c || ".+-".toList.contains c

/-- A text or a byte begins here with a letter. -/
def isMarkedText (cs : List Char) : Bool :=
  ["b\"", "br#", "br\"", "r\"", "r#\"", "r##"].any (fun p => p.toList.isPrefixOf cs) ||
    ['b', apostrophe].isPrefixOf cs

structure Name where
  text : String
  isRaw : Bool := false
  deriving DecidableEq, Repr

/-- A name, and the rest. -/
def name? (cs : List Char) : Option (Name × List Char) :=
  if isMarkedText cs then none
  else
    match cs with
    | 'r' :: '#' :: rest =>
      match rest.takeWhile isRawChar with
      | [] => none
      | name => some (⟨String.ofList name, true⟩, rest.dropWhile isRawChar)
    | c :: rest =>
      if beginsName c then
        some (⟨String.ofList (c :: rest.takeWhile Text.continuesName), false⟩,
          rest.dropWhile Text.continuesName)
      else none
    | [] => none

/-- A name that does not look like a raw one without its mark. -/
def plainName? (cs : List Char) : Option (String × List Char) := do
  let (name, rest) ← name? cs
  if !name.isRaw && rest.head?.any isRawChar then none else some (name.text, rest)

end VolumePricing.Ron
