import VolumePricing.Text.Hex

/-!
# Texts in TOML

A text stands in double quotes, where a backslash begins an escape, or in single
quotes, where every character stands for itself. Three quotes open a text that
may run over several lines. The readers work on the remaining characters.
-/

namespace VolumePricing.Toml

/-- The rest behind a line end. -/
def newline? : List Char → Option (List Char)
  | '\n' :: rest => some rest
  | '\r' :: '\n' :: rest => some rest
  | _ => none

/-- A character that may stand in a text or a comment. -/
def isPlain (c : Char) : Bool := c = '\t' || (0x20 ≤ c.toNat && c.toNat ≠ 0x7f)

def isBlank (c : Char) : Bool := c = ' ' || c = '\t'

def apostrophe : Char := Char.ofNat 39

/-- The number written with exactly `count` hexadecimal digits, and the rest. -/
def hexCode? (count : Nat) (cs : List Char) : Option (Nat × List Char) := do
  let digits ← (cs.take count).mapM Text.hexValue?
  if digits.length = count then
    some (digits.foldl (fun n d => 16 * n + d.val) 0, cs.drop count)
  else none

/-- The character with that number, if there is one. -/
def charOf? (n : Nat) : Option Char := if n.isValidChar then some (Char.ofNat n) else none

def coded? (count : Nat) (cs : List Char) : Option (Char × List Char) := do
  let (n, rest) ← hexCode? count cs
  let c ← charOf? n
  return (c, rest)

/-- The character that an escape stands for, and the rest; the backslash is already read. -/
def escape? : List Char → Option (Char × List Char)
  | 'b' :: rest => some ('\x08', rest)
  | 't' :: rest => some ('\t', rest)
  | 'n' :: rest => some ('\n', rest)
  | 'f' :: rest => some ('\x0c', rest)
  | 'r' :: rest => some ('\r', rest)
  | 'e' :: rest => some ('\x1b', rest)
  | '"' :: rest => some ('"', rest)
  | '\\' :: rest => some ('\\', rest)
  | 'x' :: rest => coded? 2 rest
  | 'u' :: rest => coded? 4 rest
  | 'U' :: rest => coded? 8 rest
  | _ => none

/-- A text on one line, up to its closing double quote. -/
def basic? : Nat → List Char → Option (List Char × List Char)
  | 0, _ => none
  | _ + 1, [] => none
  | _ + 1, '"' :: rest => some ([], rest)
  | fuel + 1, '\\' :: rest => do
    let (c, rest) ← escape? rest
    let (cs, rest) ← basic? fuel rest
    return (c :: cs, rest)
  | fuel + 1, c :: rest =>
    if isPlain c then (basic? fuel rest).map fun (cs, rest) => (c :: cs, rest) else none

/-- A text on one line, up to its closing single quote. -/
def literal? (cs : List Char) : Option (List Char × List Char) :=
  match cs.dropWhile fun c => isPlain c && c ≠ apostrophe with
  | c :: rest =>
    if c = apostrophe then some (cs.takeWhile fun c => isPlain c && c ≠ apostrophe, rest) else none
  | [] => none

/-- A run of quotes inside or at the end of a text of several lines: the quotes that
belong to the text, and whether the run closes it. -/
def quoteRun? (length : Nat) : Option (Nat × Bool) :=
  if length < 3 then some (length, false)
  else if length ≤ 5 then some (length - 3, true)
  else none

/-- What follows a backslash at the end of a line: the next character that is neither blank nor line end. -/
def skipLines : List Char → List Char
  | '\r' :: '\n' :: rest => skipLines rest
  | c :: rest => if isBlank c || c = '\n' then skipLines rest else c :: rest
  | [] => []

/-- Only blanks stand between here and the line end. -/
def endsLine (cs : List Char) : Bool := (newline? (cs.dropWhile isBlank)).isSome

/-- A text of several lines, up to its three closing quotes; `escapes` says whether a
backslash begins an escape. Line ends stay as they are written. -/
def lines? (quote : Char) (escapes : Bool) : Nat → List Char → Option (List Char × List Char)
  | 0, _ => none
  | _ + 1, [] => none
  | fuel + 1, c :: rest =>
    if c = quote then
      let run := (c :: rest).takeWhile (· = quote)
      let behind := (c :: rest).drop run.length
      match quoteRun? run.length with
      | none => none
      | some (own, true) => some (List.replicate own quote, behind)
      | some (own, false) =>
        (lines? quote escapes fuel behind).map fun (cs, rest) => (List.replicate own quote ++ cs, rest)
    else if escapes && c = '\\' then
      if endsLine rest then lines? quote escapes fuel (skipLines rest)
      else
        match escape? rest with
        | none => none
        | some (e, rest) => (lines? quote escapes fuel rest).map fun (cs, rest) => (e :: cs, rest)
    else
      if isPlain c || (newline? (c :: rest)).isSome then
        (lines? quote escapes fuel rest).map fun (cs, rest) => (c :: cs, rest)
      else none

/-- A line end right behind the opening quotes is no part of the text. -/
def afterOpening (cs : List Char) : List Char := (newline? cs).getD cs

/-- A quoted text on one line, which may serve as a key. -/
def quoted? : List Char → Option (String × List Char)
  | '"' :: rest => (basic? (rest.length + 1) rest).map fun (cs, rest) => (String.ofList cs, rest)
  | c :: rest =>
    if c = apostrophe then (literal? rest).map fun (cs, rest) => (String.ofList cs, rest) else none
  | [] => none

/-- Any quoted text. -/
def text? (cs : List Char) : Option (String × List Char) :=
  match cs with
  | a :: b :: c :: rest =>
    if a = b && b = c && (a = '"' || a = apostrophe) then
      let body := afterOpening rest
      (lines? a (a = '"') (body.length + 1) body).map fun (cs, rest) => (String.ofList cs, rest)
    else quoted? cs
  | _ => quoted? cs

end VolumePricing.Toml
