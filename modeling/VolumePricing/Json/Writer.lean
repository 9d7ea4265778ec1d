import VolumePricing.Json.Basic
import VolumePricing.Decimal.Layout
import VolumePricing.Text.Hex

/-!
# Writing JSON

Values are written without spaces, members in their order, and of the
characters of a string only the quote, the backslash and the control characters
are escaped.
-/

namespace VolumePricing.Json

def lowerHex (n : Nat) : Char := Text.hexChar (Fin.ofNat 16 n)

def escape (c : Char) : List Char :=
  if c = '"' then ['\\', '"']
  else if c = '\\' then ['\\', '\\']
  else if c = '\n' then ['\\', 'n']
  else if c = '\r' then ['\\', 'r']
  else if c = '\t' then ['\\', 't']
  else if c = '\x08' then ['\\', 'b']
  else if c = '\x0c' then ['\\', 'f']
  else if c.toNat < 0x20 then ['\\', 'u', '0', '0', lowerHex (c.toNat / 16), lowerHex c.toNat]
  else [c]

def quote (s : String) : String :=
  "\"" ++ String.ofList (s.toList.flatMap escape) ++ "\""

mutual

def render : Json → String
  | .null => "null"
  | .bool b => if b then "true" else "false"
  | .int n => toString n
  | .real x => (Decimal.dataText? x).getD "null"
  | .string s => quote s
  | .array items => "[" ++ renderItems items ++ "]"
  | .object members => "\x7b" ++ renderMembers members ++ "\x7d"
  | .unreadable => "null"
  | .misnamed value => value.render
  | .cut => "null"

def renderItems : List Json → String
  | [] => ""
  | [j] => j.render
  | j :: js => j.render ++ "," ++ renderItems js

def renderMembers : List (String × Json) → String
  | [] => ""
  | [m] => quote m.1 ++ ":" ++ m.2.render
  | m :: ms => quote m.1 ++ ":" ++ m.2.render ++ "," ++ renderMembers ms

end

end VolumePricing.Json
