import Mathlib
import VolumePricing.Text.Base64

/-!
# Texts as bytes, and bytes as letters

A text is the bytes of its characters one after another, and it can be told from them. Bytes
written as letters can be told from the letters.
-/

namespace VolumePricing.Text

/-! ### Texts as bytes -/

theorem byteArray_toList_loop (bs : ByteArray) (i : ℕ) (front : List UInt8) :
    ByteArray.toList.loop bs i front = front.reverse ++ bs.data.toList.drop i := by
  fun_induction ByteArray.toList.loop bs i front with
  | case1 i front h ih =>
    have hi : i < bs.data.toList.length := by simpa using h
    rw [ih, List.drop_eq_getElem_cons (l := bs.data.toList) hi]
    simp [ByteArray.get!, h]
  | case2 i front h =>
    rw [List.drop_eq_nil_of_le (by simpa using Nat.le_of_not_lt h)]
    simp

theorem byteArray_toList (bs : ByteArray) : bs.toList = bs.data.toList := by
  rw [ByteArray.toList, byteArray_toList_loop]
  rfl

/-- The bytes of characters, one after another. -/
def bytesOf (cs : List Char) : List UInt8 := cs.flatMap String.utf8EncodeChar

@[simp] theorem bytesOf_nil : bytesOf [] = [] := rfl

theorem bytesOf_cons (c : Char) (cs : List Char) :
    bytesOf (c :: cs) = String.utf8EncodeChar c ++ bytesOf cs := List.flatMap_cons

@[simp] theorem bytesOf_append (cs ds : List Char) :
    bytesOf (cs ++ ds) = bytesOf cs ++ bytesOf ds := List.flatMap_append

/-- The bytes of a text are those of its characters. -/
theorem toList_toUTF8 (s : String) : s.toUTF8.toList = bytesOf s.toList := by
  rw [byteArray_toList, String.toUTF8, ← String.utf8Encode_toList, List.utf8Encode,
    List.toList_data_toByteArray, bytesOf]

/-- A text can be told from its bytes. -/
theorem fromUTF8?_bytesOf (cs : List Char) :
    String.fromUTF8? ⟨(bytesOf cs).toArray⟩ = some (String.ofList cs) := by
  have hbytes : (⟨(bytesOf cs).toArray⟩ : ByteArray) = (String.ofList cs).toByteArray := by
    refine ByteArray.ext (Array.toList_inj.mp ?_)
    rw [String.toByteArray_ofList, List.utf8Encode, List.toList_data_toByteArray, bytesOf]
  rw [hbytes, String.fromUTF8?, dif_pos (String.ofList cs).isValidUTF8]
  rfl

/-- A character among the first 128 is one byte. -/
theorem utf8EncodeChar_eq {c : Char} (hc : c.toNat < 0x80) :
    String.utf8EncodeChar c = [UInt8.ofNat c.toNat] := by
  have hle : c.val.toNat ≤ 0x7f := Nat.le_of_lt_succ hc
  rw [String.utf8EncodeChar, if_pos hle]
  rfl

theorem bytesOf_cons_of_lt {c : Char} (hc : c.toNat < 0x80) (cs : List Char) :
    bytesOf (c :: cs) = UInt8.ofNat c.toNat :: bytesOf cs := by
  rw [bytesOf_cons, utf8EncodeChar_eq hc]
  rfl

/-- The bytes of every other character are beyond the first 128, too. -/
theorem le_of_mem_utf8EncodeChar {c : Char} (hc : 0x80 ≤ c.toNat) {b : UInt8}
    (hb : b ∈ String.utf8EncodeChar c) : 0x80 ≤ b.toNat := by
  have hgt : ¬ c.val.toNat ≤ 0x7f := Nat.not_le.mpr hc
  unfold String.utf8EncodeChar at hb
  rw [if_neg hgt] at hb
  split_ifs at hb <;> simp only [List.mem_cons, List.not_mem_nil, or_false] at hb
  · rcases hb with rfl | rfl <;> rw [UInt8.toNat_ofNat'] <;> omega
  · rcases hb with rfl | rfl | rfl <;> rw [UInt8.toNat_ofNat'] <;> omega
  · rcases hb with rfl | rfl | rfl | rfl <;> rw [UInt8.toNat_ofNat'] <;> omega

/-! ### Bytes as letters -/

namespace Base64

theorem value?_letter : ∀ n < 64, value? (letter n) = some n := by decide +kernel

/-- What is written in letters is read back. -/
theorem decode?_encode (bs : List UInt8) : decode? (encode bs) = some bs := by
  have byte : ∀ {n : ℕ} {a : UInt8}, n = a.toNat → UInt8.ofNat n = a := by
    rintro n a rfl
    exact UInt8.ofNat_toNat
  fun_induction encode bs with
  | case1 => rfl
  | case2 a =>
    have ha := a.toNat_lt
    have h₁ := value?_letter (a.toNat / 4) (by omega)
    have h₂ := value?_letter (a.toNat % 4 * 16) (by omega)
    have h : UInt8.ofNat (a.toNat / 4 * 4 + a.toNat % 4 * 16 / 16) = a := byte (by omega)
    simp only [decode?, h₁, h₂, bind, Option.bind, h, Nat.mul_mod_left, if_true]
  | case3 a b =>
    have ha := a.toNat_lt
    have hb := b.toNat_lt
    have h₁ := value?_letter (a.toNat / 4) (by omega)
    have h₂ := value?_letter (a.toNat % 4 * 16 + b.toNat / 16) (by omega)
    have h₃ := value?_letter (b.toNat % 16 * 4) (by omega)
    have hfirst : UInt8.ofNat (a.toNat / 4 * 4 + (a.toNat % 4 * 16 + b.toNat / 16) / 16) = a :=
      byte (by omega)
    have hsecond : UInt8.ofNat ((a.toNat % 4 * 16 + b.toNat / 16) % 16 * 16 +
        b.toNat % 16 * 4 / 4) = b := byte (by omega)
    simp only [decode?, h₁, h₂, h₃, bind, Option.bind, hfirst, hsecond, Nat.mul_mod_left, if_true]
  | case4 a b c rest ih =>
    have ha := a.toNat_lt
    have hb := b.toNat_lt
    have hc := c.toNat_lt
    have h₁ := value?_letter (a.toNat / 4) (by omega)
    have h₂ := value?_letter (a.toNat % 4 * 16 + b.toNat / 16) (by omega)
    have h₃ := value?_letter (b.toNat % 16 * 4 + c.toNat / 64) (by omega)
    have h₄ := value?_letter (c.toNat % 64) (by omega)
    have hfirst : UInt8.ofNat (a.toNat / 4 * 4 + (a.toNat % 4 * 16 + b.toNat / 16) / 16) = a :=
      byte (by omega)
    have hsecond : UInt8.ofNat ((a.toNat % 4 * 16 + b.toNat / 16) % 16 * 16 +
        (b.toNat % 16 * 4 + c.toNat / 64) / 4) = b := byte (by omega)
    have hthird : UInt8.ofNat ((b.toNat % 16 * 4 + c.toNat / 64) % 4 * 64 + c.toNat % 64) = c :=
      byte (by omega)
    simp only [decode?, h₁, h₂, h₃, h₄, ih, bind, Option.bind, hfirst, hsecond, hthird, pure]

/-- The letters are plain: none of them is a dot, a space or a control character. -/
def IsLetter (c : Char) : Prop := c.isAlphanum = true ∨ c = '-' ∨ c = '_'

theorem isLetter_letter : ∀ n < 64, IsLetter (letter n) := by
  unfold IsLetter
  decide +kernel

theorem isLetter_of_mem_encode {bs : List UInt8} {c : Char} (hc : c ∈ encode bs) : IsLetter c := by
  fun_induction encode bs with
  | case1 => cases hc
  | case2 a =>
    have ha := a.toNat_lt
    simp only [List.mem_cons, List.not_mem_nil, or_false] at hc
    rcases hc with rfl | rfl <;> exact isLetter_letter _ (by omega)
  | case3 a b =>
    have ha := a.toNat_lt
    have hb := b.toNat_lt
    simp only [List.mem_cons, List.not_mem_nil, or_false] at hc
    rcases hc with rfl | rfl | rfl <;> exact isLetter_letter _ (by omega)
  | case4 a b c rest ih =>
    have ha := a.toNat_lt
    have hb := b.toNat_lt
    have hc' := c.toNat_lt
    simp only [List.mem_cons] at hc
    rcases hc with rfl | rfl | rfl | rfl | hc
    · exact isLetter_letter _ (by omega)
    · exact isLetter_letter _ (by omega)
    · exact isLetter_letter _ (by omega)
    · exact isLetter_letter _ (by omega)
    · exact ih hc

end Base64

end VolumePricing.Text
