import VolumePricing.Json.Scan
import VolumePricing.Json.Writer
import VolumePricing.Proofs.Decimal.Spellings
import VolumePricing.Proofs.Pricing.Amounts
import VolumePricing.Proofs.Text.Letters

/-!
# Scanning what was written

A scanner that succeeds takes some bytes off the front and leaves the rest. What a value is written
as is taken off whole, whatever stands behind it.
-/

namespace VolumePricing.Json.Scan

open Text (bytesOf)

variable {α β : Type}

/-- The scanner succeeds and leaves the rest. -/
def Yields (s : Scan α) (bytes : List UInt8) (a : α) (rest : List UInt8) : Prop :=
  s.run bytes = (some a, rest)

theorem yields_pure (a : α) (bytes : List UInt8) : Yields (pure a) bytes a bytes := rfl

theorem Yields.bind {x : Scan α} {f : α → Scan β} {bytes m rest : List UInt8} {a : α} {b : β}
    (hx : Yields x bytes a m) (hf : Yields (f a) m b rest) : Yields (x >>= f) bytes b rest := by
  unfold Yields at hx hf ⊢
  rw [OptionT.run_bind]
  change (let p := x.run bytes; (Option.elimM (pure p.1) (pure none) fun a => (f a).run) p.2) = _
  rw [hx]
  exact hf

theorem yields_get (bytes : List UInt8) : Yields get bytes bytes bytes := rfl

theorem Yields.attempt {x : Scan α} {bytes rest : List UInt8} {a : α} (h : Yields x bytes a rest) :
    Yields (attempt x) bytes (some a) rest := by
  change (some (x.run bytes).1, (x.run bytes).2) = (some (some a), rest)
  rw [h]

/-! ### Single characters -/

variable {c : Char} {cs rest : List Char} {denoting : Bool} {fuel : ℕ}

theorem charOf_ofNat (hc : c.toNat < 0x80) : charOf (UInt8.ofNat c.toNat) = c := by
  unfold charOf
  rw [UInt8.toNat_ofNat', Nat.mod_eq_of_lt (by omega), Char.ofNat_toNat]

theorem yields_drop (hc : c.toNat < 0x80) (rest : List Char) :
    Yields drop (bytesOf (c :: rest)) () (bytesOf rest) := by
  rw [Text.bytesOf_cons_of_lt hc]
  rfl

theorem yields_peek? (hc : c.toNat < 0x80) (rest : List Char) :
    Yields peek? (bytesOf (c :: rest)) (some c) (bytesOf (c :: rest)) := by
  rw [Text.bytesOf_cons_of_lt hc]
  change (some (some (charOf (UInt8.ofNat c.toNat))), _) = _
  rw [charOf_ofNat hc]

theorem yields_next (hc : c.toNat < 0x80) (rest : List Char) :
    Yields next (bytesOf (c :: rest)) c (bytesOf rest) :=
  (yields_peek? hc rest).bind ((yields_drop hc rest).bind (yields_pure c _))

/-- What is no space is not passed over. -/
theorem yields_peekSolid? (hc : c.toNat < 0x80) (hsolid : isSpace c = false) (rest : List Char) :
    Yields peekSolid? (bytesOf (c :: rest)) (some c) (bytesOf (c :: rest)) := by
  refine Yields.bind (a := ()) (m := bytesOf (c :: rest)) ?_ (yields_peek? hc rest)
  change (some (), (bytesOf (c :: rest)).dropWhile fun b => isSpace (charOf b)) = _
  rw [Text.bytesOf_cons_of_lt hc, List.dropWhile_cons_of_neg (by simp [charOf_ofNat hc, hsolid])]

theorem yields_expect (hc : c.toNat < 0x80) (hsolid : isSpace c = false) (rest : List Char) :
    Yields (expect c) (bytesOf (c :: rest)) () (bytesOf rest) := by
  refine (yields_peekSolid? hc hsolid rest).bind ?_
  rw [if_pos rfl]
  exact yields_drop hc rest

/-! ### Strings -/

theorem yields_bytes_quote (denoting : Bool) (fuel : ℕ) (rest : List Char) :
    Yields (bytes denoting (fuel + 1)) (bytesOf ('"' :: rest)) [] (bytesOf rest) := by
  rfl

/-- A byte that stands for itself in a string. -/
def IsPlain (b : UInt8) : Prop := charOf b ≠ '"' ∧ charOf b ≠ '\\' ∧ ¬ b < 0x20

theorem yields_bytes_plain {ps : List UInt8} (hplain : ∀ b ∈ ps, IsPlain b)
    {bs out after : List UInt8} (h : Yields (bytes denoting fuel) bs out after) :
    Yields (bytes denoting (fuel + ps.length)) (ps ++ bs) (ps ++ out) after := by
  induction ps with
  | nil => exact h
  | cons b ps ih =>
    obtain ⟨⟨hquote, hslash, hsmall⟩, hplain⟩ := List.forall_mem_cons.mp hplain
    rw [List.length_cons, ← Nat.add_assoc]
    unfold bytes
    refine Yields.bind (yields_get _) ?_
    refine Yields.bind (a := ()) (m := ps ++ bs) rfl ?_
    rw [if_neg hquote, if_neg hslash, if_neg hsmall]
    exact (ih hplain).bind (yields_pure _ _)

theorem yields_bytes_escape {bs mid after out out' : List UInt8}
    (hescape : Yields (escape denoting) bs out mid)
    (h : Yields (bytes denoting fuel) mid out' after) :
    Yields (bytes denoting (fuel + 1)) (0x5c :: bs) (out ++ out') after := by
  unfold bytes
  refine Yields.bind (yields_get _) ?_
  refine Yields.bind (a := ()) (m := bs) rfl ?_
  exact hescape.bind (h.bind (yields_pure _ _))

theorem yields_escape_letter {e : Char} (he : e.toNat < 0x80) (hu : e ≠ 'u')
    (hescaped : escaped? e = some c) (rest : List Char) :
    Yields (escape denoting) (bytesOf (e :: rest)) (utf8 c.toNat) (bytesOf rest) := by
  refine (yields_next he rest).bind ?_
  rw [if_neg hu, hescaped]
  exact yields_pure _ _

theorem utf8_toNat (c : Char) : utf8 c.toNat = bytesOf [c] := by
  unfold utf8
  rw [Char.ofNat_toNat, Text.toList_toUTF8, String.toList_singleton]

theorem unit?_lowerHex : ∀ n < 0x20,
    unit? '0' '0' (lowerHex (n / 16)) (lowerHex n) = some n := by decide

theorem lowerHex_lt : ∀ n < 0x20, (lowerHex (n / 16)).toNat < 0x80 ∧ (lowerHex n).toNat < 0x80 := by
  decide

theorem yields_unit {a b c d : Char} {n : ℕ} (ha : a.toNat < 0x80) (hb : b.toNat < 0x80)
    (hc : c.toNat < 0x80) (hd : d.toNat < 0x80) (hunit : unit? a b c d = some n)
    (rest : List Char) :
    Yields unit (bytesOf (a :: b :: c :: d :: rest)) n (bytesOf rest) := by
  simp only [Text.bytesOf_cons_of_lt ha, Text.bytesOf_cons_of_lt hb, Text.bytesOf_cons_of_lt hc,
    Text.bytesOf_cons_of_lt hd]
  refine Yields.bind (yields_get _) ?_
  refine Yields.bind (a := ()) (m := bytesOf rest) rfl ?_
  simp only [List.take_succ_cons, List.take_zero, List.map_cons, List.map_nil, charOf_ofNat ha,
    charOf_ofNat hb, charOf_ofNat hc, charOf_ofNat hd, hunit]
  exact yields_pure n _

/-- A control character is read back from its number. -/
theorem yields_escape_unit (denoting : Bool) (hc : c.toNat < 0x20) (rest : List Char) :
    Yields (escape denoting)
      (bytesOf ('u' :: '0' :: '0' :: lowerHex (c.toNat / 16) :: lowerHex c.toNat :: rest))
      (if denoting then bytesOf [c] else []) (bytesOf rest) := by
  have hunit := yields_unit (by decide) (by decide) (lowerHex_lt _ hc).1 (lowerHex_lt _ hc).2
    (unit?_lowerHex _ hc) rest
  have hlow : isLowSurrogate c.toNat = false := decide_eq_false (by omega)
  have hhigh : isHighSurrogate c.toNat = false := decide_eq_false (by omega)
  refine (yields_next (by decide) _).bind ?_
  rw [if_pos rfl]
  refine hunit.bind ?_
  cases denoting with
  | false => exact yields_pure [] _
  | true =>
    rw [hlow, hhigh, ← utf8_toNat]
    exact yields_pure _ _

/-- Of the characters of a string some are escaped by a letter, control characters by their number,
and all others stand for themselves. -/
theorem escape_cases (c : Char) :
    (∃ e : Char, e.toNat < 0x80 ∧ e ≠ 'u' ∧ escaped? e = some c ∧ Json.escape c = ['\\', e]) ∨
      (c.toNat < 0x20 ∧ Json.escape c =
        ['\\', 'u', '0', '0', lowerHex (c.toNat / 16), lowerHex c.toNat]) ∨
      (c ≠ '"' ∧ c ≠ '\\' ∧ 0x20 ≤ c.toNat ∧ Json.escape c = [c]) := by
  unfold Json.escape
  split_ifs with h₁ h₂ h₃ h₄ h₅ h₆ h₇ h₈
  · exact Or.inl ⟨'"', by decide, by decide, by rw [h₁]; rfl, rfl⟩
  · exact Or.inl ⟨'\\', by decide, by decide, by rw [h₂]; rfl, rfl⟩
  · exact Or.inl ⟨'n', by decide, by decide, h₃ ▸ rfl, rfl⟩
  · exact Or.inl ⟨'r', by decide, by decide, h₄ ▸ rfl, rfl⟩
  · exact Or.inl ⟨'t', by decide, by decide, h₅ ▸ rfl, rfl⟩
  · exact Or.inl ⟨'b', by decide, by decide, h₆ ▸ rfl, rfl⟩
  · exact Or.inl ⟨'f', by decide, by decide, h₇ ▸ rfl, rfl⟩
  · exact Or.inr (Or.inl ⟨h₈, rfl⟩)
  · exact Or.inr (Or.inr ⟨h₁, h₂, Nat.le_of_not_lt h₈, rfl⟩)

/-- The bytes of a character that stands for itself do so, too. -/
theorem isPlain_of_mem {b : UInt8} (hquote : c ≠ '"') (hslash : c ≠ '\\') (hc : 0x20 ≤ c.toNat)
    (hb : b ∈ String.utf8EncodeChar c) : IsPlain b := by
  have hspace : (0x20 : UInt8).toNat = 0x20 := rfl
  by_cases hlt : c.toNat < 0x80
  · rw [Text.utf8EncodeChar_eq hlt, List.mem_singleton] at hb
    subst hb
    rw [IsPlain, charOf_ofNat hlt, UInt8.lt_iff_toNat_lt, UInt8.toNat_ofNat']
    exact ⟨hquote, hslash, by omega⟩
  · have hle := Text.le_of_mem_utf8EncodeChar (Nat.le_of_not_lt hlt) hb
    have hchar : (charOf b).toNat = b.toNat := by
      have hbound := b.toNat_lt
      rw [charOf, Char.toNat_ofNat, if_pos (Or.inl (by omega))]
    have hne : ∀ d : Char, d.toNat < 0x80 → charOf b ≠ d := by
      rintro d hd rfl
      omega
    refine ⟨hne _ (by decide), hne _ (by decide), ?_⟩
    rw [UInt8.lt_iff_toNat_lt]
    omega

/-- What is written for a character is passed over, and it denotes the character. -/
theorem exists_head (denoting : Bool) (c : Char) :
    ∃ head, (denoting = true → head = bytesOf [c]) ∧ ∀ {n : ℕ} {tail : List Char}
      {out after : List UInt8},
      (∀ fuel, n < fuel → Yields (bytes denoting fuel) (bytesOf tail) out after) →
      ∀ fuel, (bytesOf (Json.escape c)).length + n < fuel →
        Yields (bytes denoting fuel) (bytesOf (Json.escape c ++ tail)) (head ++ out) after := by
  rcases escape_cases c with ⟨e, he, hu, hescaped, hc⟩ | ⟨hsmall, hc⟩ | ⟨hquote, hslash, hle, hc⟩
  · refine ⟨_, fun _ => utf8_toNat c, fun htail fuel hfuel => ?_⟩
    obtain ⟨fuel, rfl⟩ := Nat.exists_eq_add_of_lt hfuel
    have hlength : (bytesOf ['\\', e]).length = 2 := by
      rw [Text.bytesOf_cons_of_lt (by decide), Text.bytesOf_cons_of_lt he]
      rfl
    rw [hc]
    exact yields_bytes_escape (yields_escape_letter he hu hescaped _) (htail _ (by omega))
  · refine ⟨if denoting then bytesOf [c] else [], fun h => if_pos h, fun htail fuel hfuel => ?_⟩
    obtain ⟨fuel, rfl⟩ := Nat.exists_eq_add_of_lt hfuel
    have hlength : 0 < (bytesOf (Json.escape c)).length := by
      rw [hc, Text.bytesOf_cons_of_lt (by decide)]
      exact Nat.succ_pos _
    rw [hc] at hlength ⊢
    exact yields_bytes_escape (yields_escape_unit denoting hsmall _) (htail _ (by omega))
  · refine ⟨_, fun _ => rfl, fun htail fuel hfuel => ?_⟩
    rw [hc] at hfuel ⊢
    have hplain : ∀ b ∈ bytesOf [c], IsPlain b := by
      intro b hb
      rw [Text.bytesOf_cons, Text.bytesOf_nil, List.append_nil] at hb
      exact isPlain_of_mem hquote hslash hle hb
    rw [← Nat.sub_add_cancel (Nat.le_of_add_right_le hfuel.le), Text.bytesOf_append]
    exact yields_bytes_plain hplain (htail _ (by omega))

/-- What is written for the characters of a string is passed over as far as its quote, and it
denotes them. -/
theorem yields_bytes (denoting : Bool) (cs rest : List Char) :
    ∃ out, (denoting = true → out = bytesOf cs) ∧
      ∀ fuel, (bytesOf (cs.flatMap Json.escape)).length < fuel →
        Yields (bytes denoting fuel) (bytesOf (cs.flatMap Json.escape ++ '"' :: rest)) out
          (bytesOf rest) := by
  induction cs with
  | nil =>
    refine ⟨[], fun _ => rfl, fun fuel hfuel => ?_⟩
    obtain ⟨fuel, rfl⟩ := Nat.exists_eq_add_of_lt hfuel
    exact yields_bytes_quote denoting _ rest
  | cons c cs ih =>
    obtain ⟨out, hout, htail⟩ := ih
    obtain ⟨head, hhead, hstep⟩ := exists_head denoting c
    refine ⟨head ++ out, fun h => ?_, fun fuel hfuel => ?_⟩
    · rw [hhead h, hout h, ← Text.bytesOf_append]
      rfl
    · rw [List.flatMap_cons, Text.bytesOf_append, List.length_append] at hfuel
      rw [List.flatMap_cons, List.append_assoc]
      exact hstep htail fuel hfuel

/-- A string is read back. -/
theorem yields_string (cs rest : List Char) :
    Yields string (bytesOf (cs.flatMap Json.escape ++ '"' :: rest)) (String.ofList cs)
      (bytesOf rest) := by
  obtain ⟨out, hout, hbytes⟩ := yields_bytes true cs rest
  refine (yields_get _).bind ((hbytes _ ?_).bind ?_)
  · rw [Text.bytesOf_append, List.length_append]
    omega
  · rw [hout rfl, Text.fromUTF8?_bytesOf]
    exact yields_pure _ _

theorem yields_skipString (cs rest : List Char) :
    Yields skipString (bytesOf (cs.flatMap Json.escape ++ '"' :: rest)) () (bytesOf rest) := by
  obtain ⟨out, -, hbytes⟩ := yields_bytes false cs rest
  refine (yields_get _).bind ((hbytes _ ?_).bind (yields_pure _ _))
  rw [Text.bytesOf_append, List.length_append]
  omega

/-- A string is passed over as a value. -/
theorem yields_skip (fuel : ℕ) (cs rest : List Char) :
    Yields (skip (fuel + 1)) (bytesOf ('"' :: (cs.flatMap Json.escape ++ '"' :: rest))) ()
      (bytesOf rest) := by
  unfold skip
  refine (yields_peekSolid? (by decide) rfl _).bind ?_
  exact (yields_drop (by decide) _).bind (yields_skipString cs rest)

/-- The content of a string is its text. -/
theorem yields_content (fuel depth : ℕ) (cs rest : List Char) :
    Yields (content (fuel + 1) depth) (bytesOf ('"' :: (cs.flatMap Json.escape ++ '"' :: rest)))
      (.string (String.ofList cs)) (bytesOf rest) := by
  unfold content
  refine (yields_peekSolid? (by decide) rfl _).bind ?_
  refine (yields_drop (by decide) _).bind ?_
  exact (yields_string cs rest).bind (yields_pure _ _)

/-! ### Numbers -/

/-- A character that ends a number. -/
structure EndsNumber (e : Char) : Prop where
  lt : e.toNat < 0x80
  digit : e.isDigit = false
  point : e ≠ '.'
  mark : e ≠ 'e' ∧ e ≠ 'E'

variable {e : Char} {ds : List Char}

theorem lt_of_isDigit (h : c.isDigit = true) : c.toNat < 0x80 := by
  simp only [Char.isDigit, Bool.and_eq_true, decide_eq_true_eq, UInt32.le_iff_toNat_le] at h
  have hnine : c.toNat ≤ 57 := h.2
  omega

theorem bytesOf_digits (hds : ∀ c ∈ ds, c.isDigit = true) :
    bytesOf ds = ds.map fun c => UInt8.ofNat c.toNat := by
  induction ds with
  | nil => rfl
  | cons d ds ih =>
    obtain ⟨hd, hds⟩ := List.forall_mem_cons.mp hds
    rw [Text.bytesOf_cons_of_lt (lt_of_isDigit hd), ih hds]
    rfl

theorem yields_digits (hds : ∀ c ∈ ds, c.isDigit = true) (he : EndsNumber e) (rest : List Char) :
    Yields digits (bytesOf (ds ++ e :: rest)) ds (bytesOf (e :: rest)) := by
  have hspan : (bytesOf (ds ++ e :: rest)).takeWhile isDigit = bytesOf ds := by
    rw [Text.bytesOf_append, bytesOf_digits hds, List.takeWhile_append_of_pos,
      Text.bytesOf_cons_of_lt he.lt, List.takeWhile_cons_of_neg, List.append_nil]
    · simp [isDigit, charOf_ofNat he.lt, he.digit]
    · rintro _ hb
      obtain ⟨d, hd, rfl⟩ := List.mem_map.mp hb
      rw [isDigit, charOf_ofNat (lt_of_isDigit (hds d hd)), hds d hd]
  have hread : (bytesOf ds).map charOf = ds := by
    rw [bytesOf_digits hds, List.map_map]
    calc ds.map (charOf ∘ fun c => UInt8.ofNat c.toNat) = ds.map id :=
          List.map_congr_left fun d hd => charOf_ofNat (lt_of_isDigit (hds d hd))
      _ = ds := List.map_id ds
  refine (yields_get _).bind ?_
  dsimp only
  rw [hspan, hread]
  refine Yields.bind (a := ()) (m := bytesOf (e :: rest)) ?_ (yields_pure ds _)
  change (some (), (bytesOf (ds ++ e :: rest)).drop _) = _
  rw [Text.bytesOf_append, List.drop_left]

theorem yields_whole (n : ℕ) (he : EndsNumber e) (rest : List Char) :
    Yields whole (bytesOf (Nat.toDigits 10 n ++ e :: rest)) (Nat.toDigits 10 n)
      (bytesOf (e :: rest)) := by
  have hdigits : ∀ c ∈ Nat.toDigits 10 n, c.isDigit = true := fun c hc =>
    Nat.isDigit_of_mem_toDigits (by omega) (by omega) hc
  by_cases hn : n = 0
  · subst hn
    rw [Nat.toDigits_zero]
    refine (yields_next (by decide) _).bind ?_
    rw [if_neg (by decide), if_pos rfl]
    refine (yields_peek? he.lt rest).bind ?_
    rw [if_neg (by simp [he.digit])]
    exact yields_pure _ _
  · have hhead := mt Money.eq_zero_of_head_toDigits hn
    obtain ⟨d, ds, hds⟩ := List.exists_cons_of_ne_nil (Nat.toDigits_ne_nil (n := n) (b := 10))
    rw [hds] at hhead hdigits ⊢
    obtain ⟨hd, hdigits⟩ := List.forall_mem_cons.mp hdigits
    have hzero : d ≠ '0' := fun h => hhead (h ▸ rfl)
    refine (yields_next (lt_of_isDigit hd) _).bind ?_
    rw [if_neg (by simp [hd]), if_neg hzero]
    exact (yields_digits hdigits he rest).bind (yields_pure _ _)

theorem yields_fraction_absent (he : EndsNumber e) (rest : List Char) :
    Yields fraction (bytesOf (e :: rest)) [] (bytesOf (e :: rest)) := by
  refine (yields_peek? he.lt rest).bind ?_
  rw [if_neg (by simp [he.point])]
  exact yields_pure _ _

theorem yields_exponent_absent (nonzero : Bool) (he : EndsNumber e) (rest : List Char) :
    Yields (exponent nonzero) (bytesOf (e :: rest)) none (bytesOf (e :: rest)) := by
  refine (yields_peek? he.lt rest).bind ?_
  dsimp only
  rw [if_neg (by simp [he.mark])]
  exact yields_pure _ _

theorem exists_digit (n : ℕ) : ∃ d ds, Nat.toDigits 10 n = d :: ds ∧ d.isDigit = true := by
  obtain ⟨d, ds, hds⟩ := List.exists_cons_of_ne_nil (Nat.toDigits_ne_nil (n := n) (b := 10))
  refine ⟨d, ds, hds, Nat.isDigit_of_mem_toDigits (b := 10) (n := n) (by omega) (by omega) ?_⟩
  rw [hds]
  exact List.mem_cons_self

theorem yields_parts (n : ℕ) (he : EndsNumber e) (rest : List Char) :
    Yields (parts true) (bytesOf (Nat.toDigits 10 n ++ e :: rest))
      (false, Nat.toDigits 10 n, [], none) (bytesOf (e :: rest)) := by
  have hwhole := yields_whole n he rest
  obtain ⟨d, ds, hds, hd⟩ := exists_digit n
  have hminus : d ≠ '-' := (Decimal.not_sign_of_isDigit hd).1
  rw [hds] at hwhole ⊢
  have hnegative : decide (some d = some '-') = false := by simp [hminus]
  refine (yields_peek? (lt_of_isDigit hd) _).bind ?_
  dsimp only
  rw [if_neg (of_decide_eq_false hnegative), hnegative]
  refine hwhole.bind ((yields_fraction_absent he rest).bind ?_)
  exact (yields_exponent_absent _ he rest).bind (yields_pure _ _)

theorem digitsValue_toDigits (n : ℕ) : Decimal.digitsValue (Nat.toDigits 10 n) = n :=
  Nat.ofDigitChars_ten_toDigits

/-- A whole number of 64 bits is read back. -/
theorem yields_number {n : ℕ} (hn : n < UInt64.size) (he : EndsNumber e) (rest : List Char) :
    Yields number (bytesOf (Nat.toDigits 10 n ++ e :: rest)) (.int n) (bytesOf (e :: rest)) := by
  have hread : ofNumeral .stepwise false (Nat.toDigits 10 n) [] none = .int n := by
    simp [ofNumeral, integer?, digitsValue_toDigits, hn]
  refine (yields_parts n he rest).bind ?_
  dsimp only
  rw [hread]
  exact yields_pure _ _

/-- A number is seen to be one by its first character. -/
theorem yields_peekSolid?_number (n : ℕ) (rest : List Char) :
    ∃ d, isNumberStart d = true ∧ Yields peekSolid? (bytesOf (Nat.toDigits 10 n ++ rest)) (some d)
      (bytesOf (Nat.toDigits 10 n ++ rest)) := by
  obtain ⟨d, ds, hds, hd⟩ := exists_digit n
  have hspace : isSpace d = false := by
    by_contra h
    simp only [isSpace, Bool.not_eq_false, Bool.or_eq_true, decide_eq_true_eq] at h
    rcases h with ((rfl | rfl) | rfl) | rfl <;> cases hd
  refine ⟨d, by simp [isNumberStart, hd], ?_⟩
  rw [hds]
  exact yields_peekSolid? (lt_of_isDigit hd) hspace _

/-! ### Members -/

variable {f : String → α → Scan α} {first : Bool} {a b d : α} {name value tail : List Char}
  {after : List UInt8}

/-- What stands in front of a member's name. -/
def opening (first : Bool) : List Char := if first then ['"'] else [',', '"']

theorem yields_hasMember (first : Bool) (rest : List Char) :
    Yields (hasMember first) (bytesOf (opening first ++ rest)) true (bytesOf rest) := by
  cases first with
  | true =>
    refine (yields_peekSolid? (by decide) rfl rest).bind ?_
    exact (yields_drop (by decide) rest).bind (yields_pure true _)
  | false =>
    refine (yields_peekSolid? (c := ',') (by decide) rfl _).bind ?_
    refine (yields_drop (by decide) _).bind ?_
    refine (yields_peekSolid? (by decide) rfl rest).bind ?_
    exact (yields_drop (by decide) rest).bind (yields_pure true _)

/-- A member and those behind it are worked through one after another. -/
theorem yields_foldMembers_cons
    (hf : Yields (f (String.ofList name) a) (bytesOf (value ++ tail)) b (bytesOf tail))
    (htail : Yields (foldMembers f fuel false b) (bytesOf tail) d after) :
    Yields (foldMembers f (fuel + 1) first a)
      (bytesOf (opening first ++ (name.flatMap Json.escape ++ '"' :: ':' :: (value ++ tail)))) d
      after := by
  unfold foldMembers
  refine (yields_hasMember first _).bind ?_
  rw [if_pos rfl]
  refine (yields_string name _).bind ?_
  exact (yields_expect (by decide) rfl _).bind (hf.bind htail)

theorem yields_foldMembers_nil (f : String → α → Scan α) (fuel : ℕ) (first : Bool) (a : α)
    (rest : List Char) :
    Yields (foldMembers f (fuel + 1) first a) (bytesOf ('\x7d' :: rest)) a (bytesOf rest) := by
  have hover : Yields (hasMember first) (bytesOf ('\x7d' :: rest)) false
      (bytesOf ('\x7d' :: rest)) :=
    (yields_peekSolid? (by decide) rfl rest).bind (yields_pure false _)
  unfold foldMembers
  refine hover.bind ?_
  exact (yields_expect (by decide) rfl rest).bind (yields_pure a _)

/-- An object is worked through when its members are. -/
theorem ofObject?_eq_some {members : List Char}
    (h : ∀ fuel, (bytesOf members).length ≤ fuel →
      Yields (foldMembers f fuel true a) (bytesOf members) b []) :
    ofObject? f a (bytesOf ('\x7b' :: members)) = some b := by
  unfold ofObject?
  have hscan : Yields (do
      expect '\x7b'
      let a ← foldMembers f ((bytesOf ('\x7b' :: members)).length + 1) true a
      if (← peekSolid?).isNone then return a else failure) (bytesOf ('\x7b' :: members)) b [] := by
    refine (yields_expect (by decide) rfl members).bind ((h _ ?_).bind ?_)
    · rw [Text.bytesOf_cons_of_lt (by decide), List.length_cons]
      omega
    · exact Yields.bind (a := none) (m := []) rfl (yields_pure b _)
  exact congrArg Prod.fst hscan

end VolumePricing.Json.Scan
