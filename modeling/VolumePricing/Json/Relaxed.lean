import VolumePricing.Decimal.Stepwise
import VolumePricing.Settings.Path
import VolumePricing.Text.Category
import VolumePricing.Text.Hex

/-!
# Reading JSON written by hand

A relaxed JSON has comments, names without quotes, texts in single quotes and
over several lines, a comma behind the last item, and numbers with a plus sign,
without digits on one side of the point, in hexadecimal, or infinite. A number
without a point or an exponent is an integer if it has no more than 64 bits.
-/

namespace VolumePricing.Json.Relaxed

def isLineEnd (c : Char) : Bool := [0xA, 0xD, 0x2028, 0x2029].contains c.toNat

def isSpace (c : Char) : Bool :=
  isLineEnd c || [0x9, 0xB, 0xC, 0x20, 0xA0, 0xFEFF, 0x1680, 0x202F, 0x205F, 0x3000].contains c.toNat ||
    (0x2000 ≤ c.toNat && c.toNat ≤ 0x200A)

/-- The rest behind the end of a comment. -/
def behindComment? : List Char → Option (List Char)
  | [] => none
  | '*' :: '/' :: rest => some rest
  | _ :: rest => behindComment? rest

/-- The rest behind spaces and comments. -/
def skip? : Nat → List Char → Option (List Char)
  | 0, _ => none
  | fuel + 1, cs =>
    match cs.dropWhile isSpace with
    | '/' :: '/' :: rest => skip? fuel (rest.dropWhile (!isLineEnd ·))
    | '/' :: '*' :: rest => (behindComment? rest).bind (skip? fuel)
    | rest => some rest

def solid? (cs : List Char) : Option (List Char) := skip? (cs.length + 1) cs

/-- The number of so many hexadecimal digits. -/
def coded? (digits : List Char) : Option Nat := do
  let ds ← digits.mapM Text.hexValue?
  return ds.foldl (fun n d => 16 * n + d.val) 0

/-- The characters of an escape, and the rest; the backslash is read. Two units may make up one
character, and a line end behind a backslash is none. -/
def escape? : List Char → Option (List Char × List Char)
  | 'b' :: rest => some (['\x08'], rest)
  | 'f' :: rest => some (['\x0c'], rest)
  | 'n' :: rest => some (['\n'], rest)
  | 'r' :: rest => some (['\r'], rest)
  | 't' :: rest => some (['\t'], rest)
  | 'v' :: rest => some (['\x0b'], rest)
  | '0' :: rest => if rest.head?.any Char.isDigit then none else some (['\x00'], rest)
  | 'x' :: a :: b :: rest => (coded? [a, b]).map fun n => ([Char.ofNat n], rest)
  | 'u' :: a :: b :: c :: d :: '\\' :: 'u' :: e :: f :: g :: h :: rest => do
    let n ← coded? [a, b, c, d]
    if n.isValidChar then some ([Char.ofNat n], '\\' :: 'u' :: e :: f :: g :: h :: rest)
    else
      let m ← coded? [e, f, g, h]
      if 0xD800 ≤ n && n < 0xDC00 && 0xDC00 ≤ m && m < 0xE000 then
        some ([Char.ofNat (0x10000 + (n - 0xD800) * 0x400 + (m - 0xDC00))], rest)
      else none
  | 'u' :: a :: b :: c :: d :: rest => do
    let n ← coded? [a, b, c, d]
    if n.isValidChar then some ([Char.ofNat n], rest) else none
  | '\r' :: '\n' :: rest => some ([], rest)
  | c :: rest =>
    if isLineEnd c then some ([], rest)
    else if c = 'x' || c = 'u' || c.isDigit then none
    else some ([c], rest)
  | [] => none

/-- A text up to the quote that closes it. -/
def text? (quote : Char) : Nat → List Char → Option (List Char × List Char)
  | 0, _ => none
  | _ + 1, [] => none
  | fuel + 1, c :: rest =>
    if c = quote then some ([], rest)
    else if c = '\\' then do
      let (e, rest) ← escape? rest
      let (cs, rest) ← text? quote fuel rest
      return (e ++ cs, rest)
    else if c = '\n' || c = '\r' then none
    else (text? quote fuel rest).map fun (cs, rest) => (c :: cs, rest)

def isQuote (c : Char) : Bool := c = '"' || c = Char.ofNat 39

def quoted? : List Char → Option (String × List Char)
  | c :: rest =>
    if isQuote c then
      (text? c (rest.length + 1) rest).map fun (cs, rest) => (String.ofList cs, rest)
    else none
  | [] => none

def isNameStart (c : Char) : Bool := c = '$' || c = '_' || Text.isLetter c

def isNamePart (c : Char) : Bool :=
  isNameStart c || Text.isMark c || Text.isDecimalDigit c || Text.isConnector c ||
    c.toNat = 0x200C || c.toNat = 0x200D

/-- The characters of a name, of which those that have an escape are what it stands for. The
first has to be one of the given kind. -/
def nameChars? : Nat → (Char → Bool) → List Char → Option (List Char × List Char)
  | fuel + 1, isWanted, '\\' :: 'u' :: a :: b :: c :: d :: rest => do
    let n ← coded? [a, b, c, d]
    if n.isValidChar && isWanted (Char.ofNat n) then
      let (cs, rest) ← nameChars? fuel isNamePart rest
      return (Char.ofNat n :: cs, rest)
    else none
  | _, _, '\\' :: _ => none
  | fuel + 1, isWanted, c :: rest =>
    if isWanted c then (nameChars? fuel isNamePart rest).map fun (cs, rest) => (c :: cs, rest)
    else some ([], c :: rest)
  | _, _, rest => some ([], rest)

/-- A name without quotes. -/
def name? (cs : List Char) : Option (String × List Char) := do
  let (name, rest) ← nameChars? (cs.length + 1) isNameStart cs
  if name.isEmpty then none else some (String.ofList name, rest)

/-- A word that is no name. -/
def word (cs : List Char) : String × List Char :=
  (String.ofList (cs.takeWhile isNamePart), cs.dropWhile isNamePart)

def isExponentMark (c : Char) : Bool := c = 'e' || c = 'E'

/-- A whole number without its sign. One beyond 64 bits is the nearest double. -/
def whole (negative : Bool) (n : Nat) : Setting :=
  let signed : Int := if negative then -n else n
  if Int64.minValue.toInt ≤ signed ∧ signed ≤ Int64.maxValue.toInt then .int signed
  else .real (Decimal.nearestSigned negative n 0)

def hexadecimal? (negative : Bool) (cs : List Char) : Option (Setting × List Char) := do
  let ds := cs.takeWhile fun c => (Text.hexValue? c).isSome
  let n ← coded? ds
  if ds.isEmpty then none else some (whole negative n, cs.drop ds.length)

def decimal? (negative : Bool) (cs : List Char) : Option (Setting × List Char) := do
  let (digits, rest) := Decimal.spanDigits cs
  if digits.head? = some '0' && digits.length ≠ 1 then none
  let pointed := rest.head? = some '.'
  let (fraction, rest) := if pointed then Decimal.spanDigits (rest.drop 1) else ([], rest)
  if digits.isEmpty && fraction.isEmpty then none
  let (power, rest) ←
    if rest.head?.any isExponentMark then
      (Decimal.exponent? (rest.drop 1)).map fun (p, rest) => (some p, rest)
    else some (none, rest)
  if pointed || power.isSome then
    return (.real (Decimal.Numeral.value ⟨digits, fraction, power.getD 0⟩ negative), rest)
  else return (whole negative (Decimal.digitsValue digits), rest)

/-- A number without its sign, and the rest. -/
def magnitude? (negative : Bool) (cs : List Char) : Option (Setting × List Char) :=
  match cs with
  | '0' :: 'x' :: rest => hexadecimal? negative rest
  | '0' :: 'X' :: rest => hexadecimal? negative rest
  | _ =>
    match word cs with
    | ("Infinity", rest) => some (.real (if negative then -(1.0 / 0.0) else 1.0 / 0.0), rest)
    | ("NaN", rest) => some (.real (0.0 / 0.0), rest)
    | _ => decimal? negative cs

def number? : List Char → Option (Setting × List Char)
  | '-' :: cs => magnitude? true cs
  | '+' :: cs => magnitude? false cs
  | cs => magnitude? false cs

/-- Nothing goes on where a number ends. -/
def endsNumber (rest : List Char) : Bool := !rest.head?.any fun c => isNamePart c || c = '.'

mutual

/-- A value, and the rest. -/
def value? : Nat → List Char → Option (Setting × List Char)
  | 0, _ => none
  | fuel + 1, cs => do
    let cs ← solid? cs
    match cs with
    | '[' :: rest => do
      let (items, rest) ← items? fuel rest
      return (.list items, rest)
    | '\x7b' :: rest => do
      let (members, rest) ← members? fuel [] rest
      return (.table members, rest)
    | _ =>
      if cs.head?.any isQuote then (quoted? cs).map fun (s, rest) => (.text s, rest)
      else
        match word cs with
        | ("null", rest) => return (.nothing, rest)
        | ("true", rest) => return (.bool true, rest)
        | ("false", rest) => return (.bool false, rest)
        | _ =>
          let (value, rest) ← number? cs
          if endsNumber rest then some (value, rest) else none

/-- The items of an array, up to its closing bracket. -/
def items? : Nat → List Char → Option (List Setting × List Char)
  | 0, _ => none
  | fuel + 1, cs => do
    match ← solid? cs with
    | ']' :: rest => return ([], rest)
    | cs =>
      let (item, rest) ← value? fuel cs
      match ← solid? rest with
      | ',' :: rest =>
        let (items, rest) ← items? fuel rest
        return (item :: items, rest)
      | ']' :: rest => return ([item], rest)
      | _ => none

/-- The members of an object, up to its closing brace. Of several of one name the last counts. -/
def members? : Nat → Settings.Table → List Char → Option (Settings.Table × List Char)
  | 0, _, _ => none
  | fuel + 1, table, cs => do
    match ← solid? cs with
    | '\x7d' :: rest => return (table, rest)
    | cs =>
      let (name, rest) ← (quoted? cs).or (name? cs)
      let ':' :: rest ← solid? rest | none
      let (value, rest) ← value? fuel rest
      let table := Settings.set name value table
      match ← solid? rest with
      | ',' :: rest => members? fuel table rest
      | '\x7d' :: rest => return (table, rest)
      | _ => none

end

/-- The table that a text holds. -/
def parse? (text : String) : Option Settings.Table := do
  let (.table members, rest) ← value? (2 * text.length + 2) text.toList | none
  if (← solid? rest).isEmpty then some members else none

end VolumePricing.Json.Relaxed
