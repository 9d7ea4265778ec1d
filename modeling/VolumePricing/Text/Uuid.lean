import VolumePricing.Json.Decode
import VolumePricing.Text.Hex

/-!
# Universally unique identifiers

An identifier is a row of thirty-two hexadecimal digits. It is written in five
groups with hyphens between them, and read in that form, without the hyphens,
in braces, or as a URN.
-/

namespace VolumePricing

structure Uuid where
  digits : List (Fin 16)
  length_digits : digits.length = 32
  deriving DecidableEq

namespace Uuid

def ofDigits? (ds : List (Fin 16)) : Option Uuid :=
  if h : ds.length = 32 then some ⟨ds, h⟩ else none

def chars (u : Uuid) : List Char := u.digits.map Text.hexChar

/-- The groups of eight, four, four, four and twelve digits with hyphens between them. -/
def text (u : Uuid) : String :=
  let cs := u.chars
  String.ofList (cs.take 8 ++ ['-'] ++ (cs.drop 8).take 4 ++ ['-'] ++ (cs.drop 12).take 4 ++
    ['-'] ++ (cs.drop 16).take 4 ++ ['-'] ++ cs.drop 20)

def ofSimple? (cs : List Char) : Option Uuid :=
  (cs.mapM Text.hexValue?).bind ofDigits?

/-- Thirty-six characters with hyphens after the eighth, twelfth, sixteenth and twentieth digit. -/
def ofHyphenated? (cs : List Char) : Option Uuid :=
  if (cs.drop 8).take 1 = ['-'] ∧ (cs.drop 13).take 1 = ['-'] ∧ (cs.drop 18).take 1 = ['-'] ∧
      (cs.drop 23).take 1 = ['-'] then
    ofSimple? (cs.take 8 ++ (cs.drop 9).take 4 ++ (cs.drop 14).take 4 ++ (cs.drop 19).take 4 ++
      cs.drop 24)
  else none

def parse? (s : String) : Option Uuid :=
  let cs := s.toList
  if cs.length = 32 then ofSimple? cs
  else if cs.length = 36 then ofHyphenated? cs
  else if cs.length = 38 ∧ cs.take 1 = ['\x7b'] ∧ cs.drop 37 = ['\x7d'] then
    ofHyphenated? ((cs.drop 1).take 36)
  else if cs.length = 45 ∧ (cs.take 9).map Char.toLower = "urn:uuid:".toList then ofHyphenated? (cs.drop 9)
  else none

def lastDigit (value : Nat) : Fin 16 := ⟨value % 16, Nat.mod_lt _ (by decide)⟩

/-- The lowest `n` digits of a number. -/
def lowDigits (n : Nat) (value : Nat) : List (Fin 16) :=
  (List.range n).reverse.map fun i => lastDigit (value >>> (4 * i))

/-- A random identifier: its version is four and its variant bits are one and zero. -/
def ofRandom (value : Nat) : Uuid :=
  ⟨lowDigits 12 (value >>> 72) ++ [lastDigit 4] ++ lowDigits 3 (value >>> 60) ++
    [lastDigit (8 + (value >>> 124) % 4)] ++ lowDigits 15 value, by simp [lowDigits]⟩

/-- The digit that tells how the identifier was made. -/
def version (u : Uuid) : Nat := ((u.digits.drop 12).head?.map Fin.val).getD 0

end Uuid

instance : ToJson Uuid := ⟨fun u => .string u.text⟩

instance : FromJson Uuid where
  decode
    | .string s =>
      match Uuid.parse? s with
      | some u => .ok u
      | none => .error .mismatch
    | j => .error j.fault

end VolumePricing
