import VolumePricing.Text.Hex
import VolumePricing.Yaml.Cursor

/-!
# Tags, names and directives

A tag says what a value is. It stands in pointed brackets, or behind a handle for
which a directive gives the meaning. A name is given to a value where it stands
and refers to it elsewhere.
-/

namespace VolumePricing.Yaml

/-- A character of a handle or of the name of a directive. -/
def isHandleChar (c : Char) : Bool := c.isAlphanum || c = '_' || c = '-'

def isUriChar (c : Char) : Bool :=
  isHandleChar c || "#;/?:@&=+$,.!~*()[]%".toList.contains c || c = Char.ofNat 39

def isTagChar (c : Char) : Bool := isUriChar c && !isFlowSign c && c ≠ '!'

/-- How many octets a character has that begins with the given one. -/
def octets? (lead : Nat) : Option Nat :=
  if lead < 0x80 then some 1
  else if 0xC0 ≤ lead && lead < 0xE0 then some 2
  else if 0xE0 ≤ lead && lead < 0xF0 then some 3
  else if 0xF0 ≤ lead && lead < 0xF8 then some 4
  else none

/-- An octet that is written as two hexadecimal digits behind a percent sign. -/
def octet : Reader Nat := do
  match ← rest with
  | '%' :: high :: low :: _ => do
    let some high := Text.hexValue? high | failure
    let some low := Text.hexValue? low | failure
    drop 3
    return 16 * high.val + low.val
  | _ => failure

/-- The further octets of a character, strung together with those before. -/
def furtherOctets : Nat → Nat → Reader Nat
  | 0, code => return code
  | count + 1, code => do
    let next ← octet
    if next < 0x80 || 0xC0 ≤ next then failure
    furtherOctets count (256 * code + next)

/-- A character that is written in octets. Only their row as one number tells which it is. -/
def octetChar : Reader Char := do
  let lead ← octet
  let some count := octets? lead | failure
  let code ← furtherOctets (count - 1) lead
  if !decide code.isValidChar then failure
  return Char.ofNat code

/-- The characters of one kind, with those written in octets. -/
def uriChars (p : Char → Bool) : Nat → Reader (List Char)
  | 0 => failure
  | fuel + 1 => do
    match ← peek? with
    | some c =>
      if !p c then return []
      else do
        let c ← if c = '%' then octetChar else do
          drop 1
          pure c
        return c :: (← uriChars p fuel)
    | none => return []

def uri (p : Char → Bool) : Reader (List Char) := do uriChars p ((← rest).length + 1)

/-- Letters between two exclamation marks, of which the last may be missing. -/
def handle : Reader (List Char) := do
  if (← peek?) ≠ some '!' then failure
  drop 1
  let name ← takeWhile isHandleChar
  if (← peek?) = some '!' then
    drop 1
    return '!' :: name ++ ['!']
  else return '!' :: name

/-- What makes a handle: an exclamation mark at either end. -/
def isClosed (handle : List Char) : Bool := 2 ≤ handle.length && handle.getLast? = some '!'

/-- A tag in pointed brackets, behind a handle, or behind an exclamation mark alone. -/
def tagToken : Reader Token := do
  let token ← do
    if ((← rest).drop 1).head? = some '<' then do
      drop 2
      let suffix ← uri isUriChar
      if (← peek?) ≠ some '>' then failure
      drop 1
      pure (Token.tag "" (String.ofList suffix))
    else do
      let handle ← handle
      let more ← uri isTagChar
      if isClosed handle then do
        if more.isEmpty then failure
        pure (Token.tag (String.ofList handle) (String.ofList more))
      else if handle.length = 1 && more.isEmpty then pure (Token.tag "" "!")
      else pure (Token.tag "!" (String.ofList (handle.drop 1 ++ more)))
  let cs ← rest
  if endsWord cs || ((← inFlow) && cs.head?.any isFlowSign) then return token else failure

/-- A name behind the sign that introduces it. -/
def name : Reader String := do
  drop 1
  let cs ← takeWhile fun c => !(isBlank c || c = '\n' || isFlowSign c || c = '\ufeff')
  if cs.isEmpty then failure
  return String.ofList cs

def directiveBlanks : Reader Unit := do skipBlanks ((← rest).takeWhile isBlank).length

/-- A number of at most nine digits. -/
def versionNumber : Reader Unit := do
  let ds ← takeWhile Char.isDigit
  if ds.isEmpty || 9 < ds.length then failure

def versionDirective : Reader Token := do
  directiveBlanks
  versionNumber
  if (← peek?) ≠ some '.' then failure
  drop 1
  versionNumber
  return .version

/-- What a handle stands for: a tag that begins with an exclamation mark, or one that does not
contain flow signs at its start. -/
def handleDirective : Reader Token := do
  directiveBlanks
  let handle ← handle
  if !isClosed handle && handle.length ≠ 1 then failure
  directiveBlanks
  if !(← peek?).any fun c => c = '!' || isTagChar c then failure
  let meaning ← uri isUriChar
  if !endsWord (← rest) then failure
  return .handle (String.ofList handle) (String.ofList meaning)

/-- A directive, which takes up its line. Those of other names say nothing. -/
def directive : Reader Token := do
  drop 1
  let name ← takeWhile isHandleChar
  if name.isEmpty || !endsWord (← rest) then failure
  let token ←
    if name = "YAML".toList then versionDirective
    else if name = "TAG".toList then handleDirective
    else do
      let _ ← takeWhile (· ≠ '\n')
      pure (Token.handle "" "")
  let _ ← toLineEnd true
  if !endsLine (← rest) then failure
  if (← peek?).isSome then newLine
  return token

end VolumePricing.Yaml
