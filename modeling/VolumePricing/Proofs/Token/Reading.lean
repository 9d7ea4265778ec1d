import VolumePricing.Proofs.Json.Scanning
import VolumePricing.Proofs.Service.StaffRoutes

/-!
# Tokens read back

A token that was issued is read as what it was issued for, as long as it lives: its parts are told
apart, its header is accepted, its claims are read back from their letters, and what limits it are
these claims alone.
-/

namespace VolumePricing

open Json.Scan
open Text (bytesOf)

/-! ### Claims as text -/

/-- A text as it is written. -/
def Json.written (s : String) : List Char := '"' :: (s.toList.flatMap Json.escape ++ ['"'])

namespace Claims

variable {rest : List Char} {s : String}

/-- The members of an object of claims as they are written. -/
def members (c : Claims) : List Char :=
  opening true ++ ("sub".toList.flatMap Json.escape ++ '"' :: ':' :: (Json.written c.subject ++
    (opening false ++ ("role".toList.flatMap Json.escape ++ '"' :: ':' :: (Json.written c.role ++
      (opening false ++ ("exp".toList.flatMap Json.escape ++ '"' :: ':' ::
        (Nat.toDigits 10 c.expires.toNat ++ ['\x7d']))))))))

theorem toList_quote (s : String) : (Json.quote s).toList = Json.written s := by
  simp [Json.quote, Json.written]

theorem toList_render (c : Claims) : (encode c).render.toList = '\x7b' :: c.members := by
  have hexpires : (toString (c.expires.toNat : ℤ)).toList = Nat.toDigits 10 c.expires.toNat :=
    Nat.toList_repr
  change (Json.object [("sub", .string c.subject), ("role", .string c.role),
    ("exp", .int c.expires.toNat)]).render.toList = _
  simp only [Json.render, Json.renderMembers, String.toList_append, toList_quote, hexpires]
  simp [members, Json.written, opening]

theorem yields_textValue (s : String) (rest : List Char) :
    Yields textValue (bytesOf (Json.written s ++ rest)) s (bytesOf rest) := by
  have hstring := yields_string s.toList rest
  rw [String.ofList_toList] at hstring
  rw [Json.written, List.cons_append, List.append_assoc]
  exact (yields_expect (by decide) rfl _).bind hstring

theorem endsNumber_brace : EndsNumber '\x7d' := ⟨by decide, by decide, by decide, by decide⟩

theorem toNat_ofNat_expires (n : UInt64) : UInt64.ofNat ((n.toNat : ℤ).toNat) = n := by
  rw [Int.toNat_natCast, UInt64.ofNat_toNat]

theorem yields_wordValue (n : UInt64) (rest : List Char) :
    Yields wordValue (bytesOf (Nat.toDigits 10 n.toNat ++ '\x7d' :: rest)) n
      (bytesOf ('\x7d' :: rest)) := by
  obtain ⟨d, hd, hpeek⟩ := yields_peekSolid?_number n.toNat ('\x7d' :: rest)
  refine hpeek.bind ?_
  rw [if_pos (by simp [hd])]
  refine (yields_number n.toNat_lt endsNumber_brace rest).bind ?_
  dsimp only
  rw [if_pos (Int.natCast_nonneg _), toNat_ofNat_expires]
  exact yields_pure n _

/-- The three members are worked through before the fuel is out. -/
theorem exists_fuel (c : Claims) {fuel : ℕ} (h : (bytesOf c.members).length ≤ fuel) :
    ∃ n, fuel = n + 4 := by
  have hmin : 4 ≤ (bytesOf c.members).length := by
    rw [members, ← List.append_assoc, Text.bytesOf_append, List.length_append]
    exact Nat.le_add_right 4 _
  exact Nat.exists_eq_add_of_le' (hmin.trans h)

/-- Claims are read back. -/
theorem ofBytes?_members (c : Claims) : ofBytes? (bytesOf ('\x7b' :: c.members)) = some c := by
  have hread : ofObject? Draft.read {} (bytesOf ('\x7b' :: c.members)) =
      some ⟨some c.subject, some c.role, some c.expires⟩ := by
    refine ofObject?_eq_some fun fuel hfuel => ?_
    obtain ⟨fuel, rfl⟩ := c.exists_fuel hfuel
    refine yields_foldMembers_cons (b := ⟨some c.subject, none, none⟩) ?_ ?_
    · rw [String.ofList_toList]
      exact (yields_textValue _ _).bind (yields_pure _ _)
    refine yields_foldMembers_cons (b := ⟨some c.subject, some c.role, none⟩) ?_ ?_
    · rw [String.ofList_toList]
      exact (yields_textValue _ _).bind (yields_pure _ _)
    refine yields_foldMembers_cons (b := ⟨some c.subject, some c.role, some c.expires⟩) ?_ ?_
    · rw [String.ofList_toList]
      exact (yields_wordValue _ _).bind (yields_pure _ _)
    exact yields_foldMembers_nil _ _ _ _ _
  rw [ofBytes?, hread]
  rfl

end Claims

namespace Limits

theorem yields_time (n : UInt64) (rest : List Char) :
    Yields time (bytesOf (Nat.toDigits 10 n.toNat ++ '\x7d' :: rest)) n
      (bytesOf ('\x7d' :: rest)) := by
  obtain ⟨d, hd, hpeek⟩ := yields_peekSolid?_number n.toNat ('\x7d' :: rest)
  refine hpeek.bind ?_
  dsimp only
  rw [if_pos hd]
  refine (yields_number n.toNat_lt Claims.endsNumber_brace rest).bind ?_
  dsimp only
  rw [if_pos (Int.natCast_nonneg _), Claims.toNat_ofNat_expires]
  exact yields_pure n _

theorem yields_name (s : String) (rest : List Char) :
    Yields name (bytesOf (Json.written s ++ rest)) () (bytesOf rest) := by
  rw [Json.written, List.cons_append, List.append_assoc]
  exact (yields_content 0 0 s.toList rest).bind (yields_pure () _)

theorem yields_skip_written (fuel : ℕ) (s : String) (rest : List Char) :
    Yields (skip (fuel + 1)) (bytesOf (Json.written s ++ rest)) () (bytesOf rest) := by
  rw [Json.written, List.cons_append, List.append_assoc]
  exact yields_skip fuel s.toList rest

/-- The limits are read: the second at which the token expires, and nobody it is addressed to. -/
theorem ofBytes?_members (c : Claims) :
    ∃ l, ofBytes? (bytesOf ('\x7b' :: c.members)) = some l ∧ l.expires = some c.expires ∧
      l.isAddressed = false := by
  refine ⟨⟨["exp", "sub"], some c.expires, false⟩, ofObject?_eq_some fun fuel hfuel => ?_, rfl, rfl⟩
  obtain ⟨fuel, rfl⟩ := c.exists_fuel hfuel
  refine yields_foldMembers_cons (b := ⟨["sub"], none, false⟩) ?_ ?_
  · rw [String.ofList_toList, read, if_neg (by decide)]
    exact (yields_get _).bind ((yields_name _ _).attempt.bind (yields_pure _ _))
  refine yields_foldMembers_cons (b := ⟨["sub"], none, false⟩) ?_ ?_
  · rw [String.ofList_toList, read, if_neg (by decide)]
    exact (yields_get _).bind ((yields_skip_written _ _ _).bind (yields_pure _ _))
  refine yields_foldMembers_cons (b := ⟨["exp", "sub"], some c.expires, false⟩) ?_ ?_
  · rw [String.ofList_toList, read, if_neg (by decide)]
    exact (yields_get _).bind ((yields_time _ _).attempt.bind (yields_pure _ _))
  exact yields_foldMembers_nil _ _ _ _ _

end Limits

/-! ### The parts of a token -/

namespace Token

open Text (Base64.encode Base64.decode? splitAll)

variable {secret : String}

theorem bytes_eq (cs : List Char) : bytes cs = bytesOf cs := by
  rw [bytes, Text.toList_toUTF8, String.toList_ofList]

theorem decode?_jsonPart (j : Json) :
    Base64.decode? (jsonPart j) = some (bytesOf j.render.toList) := by
  rw [jsonPart, Text.Base64.decode?_encode, bytes_eq]

/-- A part is read as its text. -/
theorem partJson?_jsonPart (j : Json) :
    partJson? (jsonPart j) = Json.parse? .stepwise j.render := by
  unfold partJson?
  rw [decode?_jsonPart]
  simp only [bind, Option.bind, Text.fromUTF8?_bytesOf, String.ofList_toList]

theorem parse?_header :
    Json.parse? .stepwise (header Header.algorithm).render = some (header Header.algorithm) := by
  cbv

theorem isAccepted_header : Header.isAccepted (header Header.algorithm) = true := by
  cbv

theorem dot_not_mem_encode (bs : List UInt8) : '.' ∉ Base64.encode bs := by
  intro h
  rcases Text.Base64.isLetter_of_mem_encode h with h | h | h <;> cases h

/-- A token that was signed is cut into its parts. -/
theorem splitAll_sign (secret : String) (header claims : Json) :
    splitAll '.' (sign secret header claims).toList =
      [jsonPart header, jsonPart claims,
        signature secret (jsonPart header ++ ['.'] ++ jsonPart claims)] := by
  have hparts : ∀ j, '.' ∉ jsonPart j := fun j => dot_not_mem_encode _
  have hmark : ∀ message, '.' ∉ signature secret message := fun message => dot_not_mem_encode _
  rw [sign, String.toList_ofList]
  simp only [List.append_assoc, List.cons_append, List.nil_append]
  rw [Text.splitAll_append_cons, Text.splitAll_append_cons, Text.splitAll_of_not_mem (hparts _),
    Text.splitAll_of_not_mem (hparts _), Text.splitAll_of_not_mem (hmark _)]
  rfl

theorem plain_of_isLetter {c : Char} (h : Text.Base64.IsLetter c) :
    0x20 ≤ c.toNat ∧ c.toNat < 0x7f := by
  rcases h with h | rfl | rfl
  · simp only [Char.isAlphanum, Char.isAlpha, Char.isUpper, Char.isLower, Char.isDigit,
      Bool.or_eq_true, Bool.and_eq_true, decide_eq_true_eq, UInt32.le_iff_toNat_le] at h
    change ((65 ≤ c.toNat ∧ c.toNat ≤ 90) ∨ (97 ≤ c.toNat ∧ c.toNat ≤ 122)) ∨
      (48 ≤ c.toNat ∧ c.toNat ≤ 57) at h
    omega
  · decide
  · decide

/-- A token is plain text. -/
theorem plain_of_mem_sign {header claims : Json} {c : Char}
    (hc : c ∈ (sign secret header claims).toList) : 0x20 ≤ c.toNat ∧ c.toNat < 0x7f := by
  have hletters : ∀ {bs}, c ∈ Base64.encode bs → 0x20 ≤ c.toNat ∧ c.toNat < 0x7f := fun h =>
    plain_of_isLetter (Text.Base64.isLetter_of_mem_encode h)
  rw [sign, String.toList_ofList] at hc
  simp only [List.mem_append, List.mem_singleton] at hc
  rcases hc with (((hc | rfl) | hc) | rfl) | hc
  · exact hletters hc
  · decide
  · exact hletters hc
  · decide
  · exact hletters hc

/-- A token that was issued is read as what it was issued for, while it lives. -/
theorem verify_issue (secret : String) (c : Claims) (now : Instant) :
    verify secret (issue secret c) now = if c.liveAt now then some c else none := by
  obtain ⟨l, hlimits, hexpires, haddressed⟩ := Limits.ofBytes?_members c
  unfold verify issue
  rw [splitAll_sign]
  simp only [partJson?_jsonPart, parse?_header, decode?_jsonPart, Claims.toList_render,
    Claims.ofBytes?_members, hlimits, bind, Option.bind, isAccepted_header, hexpires, haddressed]
  simp

end Token

end VolumePricing
