import VolumePricing.Text.Hex
import VolumePricing.Text.Split

/-!
# Escaped text in addresses

A percent sign with two hexadecimal digits stands for a byte; a percent sign
without them stands for itself. The fields of a query are separated by
ampersands, and a plus sign in them stands for a space.
-/

/-!
### Characters from bytes

Bytes are read as UTF-8. Where they are none, the longest piece that could have
begun a character is replaced by the replacement character.
-/

namespace VolumePricing.Text.Utf8

/-- How many bytes follow a first byte, and the range of the first of them. -/
def followers (lead : Nat) : Option (Nat × Nat × Nat) :=
  if lead < 0x80 then some (0, 0x80, 0xbf)
  else if 0xc2 ≤ lead ∧ lead ≤ 0xdf then some (1, 0x80, 0xbf)
  else if lead = 0xe0 then some (2, 0xa0, 0xbf)
  else if lead = 0xed then some (2, 0x80, 0x9f)
  else if 0xe1 ≤ lead ∧ lead ≤ 0xef then some (2, 0x80, 0xbf)
  else if lead = 0xf0 then some (3, 0x90, 0xbf)
  else if 0xf1 ≤ lead ∧ lead ≤ 0xf3 then some (3, 0x80, 0xbf)
  else if lead = 0xf4 then some (3, 0x80, 0x8f)
  else none

/-- The bits of a first byte with the given number of followers. -/
def leadBits (lead count : Nat) : Nat :=
  match count with
  | 0 => lead
  | 1 => lead % 32
  | 2 => lead % 16
  | _ => lead % 8

def replacement : Char := '\ufffd'

/-- Reads on in a character that still wants `need` bytes, the next of them between `low`
and `high`; `code` holds the bits read so far. -/
def continueChar (need low high code : Nat) : List UInt8 → List Char
  | [] => if need = 0 then [Char.ofNat code] else [replacement]
  | b :: bs =>
    if 0 < need ∧ low ≤ b.toNat ∧ b.toNat ≤ high then
      continueChar (need - 1) 0x80 0xbf (code * 64 + b.toNat % 64) bs
    else
      let done := if need = 0 then Char.ofNat code else replacement
      match followers b.toNat with
      | none => done :: continueChar 1 1 0 0 bs
      | some (need, low, high) =>
        done :: continueChar need low high (leadBits b.toNat need) bs

def decodeLossy : List UInt8 → List Char
  | [] => []
  | b :: bs =>
    match followers b.toNat with
    | none => continueChar 1 1 0 0 bs
    | some (need, low, high) => continueChar need low high (leadBits b.toNat need) bs

end VolumePricing.Text.Utf8

namespace VolumePricing.Text

/-! ### Escapes and fields -/

def percentBytes : List UInt8 → List UInt8
  | 37 :: a :: b :: rest =>
    match hexValue? (Char.ofNat a.toNat), hexValue? (Char.ofNat b.toNat) with
    | some x, some y => UInt8.ofNat (x.val * 16 + y.val) :: percentBytes rest
    | _, _ => 37 :: percentBytes (a :: b :: rest)
  | b :: rest => b :: percentBytes rest
  | [] => []

/-- The bytes that an escaped text stands for. -/
def percentDecoded (cs : List Char) : List UInt8 := percentBytes (String.ofList cs).toUTF8.toList

def percentDecode (cs : List Char) : List Char := Utf8.decodeLossy (percentDecoded cs)

/-- The text that an escaped text stands for, if its bytes are one. -/
def percentDecode? (cs : List Char) : Option String :=
  String.fromUTF8? ⟨(percentDecoded cs).toArray⟩

def plusToSpace (c : Char) : Char := if c = '+' then ' ' else c

def formDecode (cs : List Char) : String :=
  String.ofList (percentDecode (cs.map plusToSpace))

/-- The fields of a query in order. A field without an equals sign has an empty value. -/
def formFields (query : List Char) : List (String × String) :=
  ((splitAll '&' query).filter (· ≠ [])).map fun piece =>
    let (name, value) := splitFirst '=' piece
    (formDecode name, formDecode value)

end VolumePricing.Text
