import VolumePricing.Proofs.Decimal.Rounding

/-!
# What numerals look like

The texts that are read as a number, said by their parts. A numeral has digits on either side of
a point that may be missing, a sign before them and a power of ten behind them; a double may also
be written as a word for infinity or for not-a-number. Of all these only a numeral below the limit
of the doubles stands for a finite number.
-/

namespace VolumePricing.Decimal

/-- A sign that may be left out. -/
inductive SpellsSign : List Char → Bool → Prop
  | absent : SpellsSign [] false
  | plus : SpellsSign ['+'] false
  | minus : SpellsSign ['-'] true

/-- A sign and at least one digit. -/
inductive SpellsWhole : List Char → ℤ → Prop
  | mk {sign ds : List Char} {negative : Bool} (hsign : SpellsSign sign negative) (hne : ds ≠ [])
      (hdigits : ∀ c ∈ ds, c.isDigit = true) :
      SpellsWhole (sign ++ ds) (if negative then -(digitsValue ds : ℤ) else digitsValue ds)

/-- Digits, at least one of them, with a point somewhere or not. -/
inductive SpellsDigits : List Char → List Char → List Char → Prop
  | whole {ds : List Char} (hne : ds ≠ []) (hdigits : ∀ c ∈ ds, c.isDigit = true) :
      SpellsDigits ds ds []
  | pointed {whole fraction : List Char} (hne : whole ≠ [] ∨ fraction ≠ [])
      (hwhole : ∀ c ∈ whole, c.isDigit = true) (hfraction : ∀ c ∈ fraction, c.isDigit = true) :
      SpellsDigits (whole ++ '.' :: fraction) whole fraction

/-- A power of ten behind its mark, or none. -/
inductive SpellsPower : List Char → ℤ → Prop
  | absent : SpellsPower [] 0
  | marked {mark : Char} {cs : List Char} {power : ℤ} (hmark : mark = 'e' ∨ mark = 'E')
      (hwhole : SpellsWhole cs power) : SpellsPower (mark :: cs) power

/-- A numeral. -/
inductive Spells : List Char → Bool → Numeral → Prop
  | mk {sign body power : List Char} {negative : Bool} {n : Numeral}
      (hsign : SpellsSign sign negative) (hbody : SpellsDigits body n.whole n.fraction)
      (hpower : SpellsPower power n.power) : Spells (sign ++ (body ++ power)) negative n

/-- A double written by hand. Case does not matter in a word. -/
inductive Denotes : List Char → Float → Prop
  | infinite {sign word : List Char} {negative : Bool} (hsign : SpellsSign sign negative)
      (hword : word.map Char.toLower = "inf".toList ∨
        word.map Char.toLower = "infinity".toList) :
      Denotes (sign ++ word) (if negative then -(1.0 / 0.0) else 1.0 / 0.0)
  | nan {sign word : List Char} {negative : Bool} (hsign : SpellsSign sign negative)
      (hword : word.map Char.toLower = "nan".toList) : Denotes (sign ++ word) (0.0 / 0.0)
  | numeral {cs : List Char} {negative : Bool} {n : Numeral} (h : Spells cs negative n) :
      Denotes cs (n.value negative)

/-- A numeral whose value lies below the limit of the doubles. -/
def SpellsFinite (cs : List Char) : Prop :=
  ∃ negative n, Spells cs negative n ∧ (n.digits : ℚ) * 10 ^ n.exponent < limit

variable {cs ds rest sign body whole fraction : List Char} {negative : Bool} {n : Numeral}
  {low high m power : ℤ} {x : Float}

/-! ### Signs and digits -/

/-- The digits that are spanned end before the first character that is none. -/
theorem spanDigits_eq_iff :
    spanDigits cs = (ds, rest) ↔
      cs = ds ++ rest ∧ (∀ c ∈ ds, c.isDigit = true) ∧ ∀ c ∈ rest.head?, c.isDigit = false := by
  constructor
  · intro h
    cases h
    refine ⟨List.takeWhile_append_dropWhile.symm, fun c hc => List.mem_takeWhile_imp hc, ?_⟩
    intro c hc
    have hstop := List.head?_dropWhile_not Char.isDigit cs
    rwa [hc] at hstop
  · rintro ⟨rfl, hdigits, hstop⟩
    unfold spanDigits
    rw [List.takeWhile_append_of_pos hdigits, List.dropWhile_append_of_pos hdigits]
    cases rest with
    | nil => simp
    | cons c rest => simp [hstop c rfl]

theorem spanDigits_of_digits (h : ∀ c ∈ ds, c.isDigit = true) : spanDigits ds = (ds, []) :=
  spanDigits_eq_iff.mpr ⟨(List.append_nil ds).symm, h, by simp⟩

theorem exists_sign (h : spanSign cs = (negative, rest)) :
    ∃ sign, SpellsSign sign negative ∧ cs = sign ++ rest := by
  unfold spanSign at h
  split at h <;> cases h
  · exact ⟨_, .minus, rfl⟩
  · exact ⟨_, .plus, rfl⟩
  · exact ⟨_, .absent, rfl⟩

/-- A sign is spanned before what is none itself. -/
theorem spanSign_append (hsign : SpellsSign sign negative)
    (hrest : ∀ c ∈ rest.head?, c ≠ '-' ∧ c ≠ '+') :
    spanSign (sign ++ rest) = (negative, rest) := by
  cases hsign with
  | absent =>
    cases rest with
    | nil => rfl
    | cons c rest =>
      obtain ⟨hminus, hplus⟩ := hrest c rfl
      simp [spanSign, hminus, hplus]
  | plus => rfl
  | minus => rfl

theorem not_sign_of_isDigit {c : Char} (h : c.isDigit = true) : c ≠ '-' ∧ c ≠ '+' := by
  constructor <;> rintro rfl <;> simp at h

/-! ### Whole numbers -/

theorem exponent?_eq_some_iff : exponent? cs = some (power, []) ↔ SpellsWhole cs power := by
  constructor
  · intro h
    unfold exponent? at h
    split at h
    rename_i negative rest hspan
    obtain ⟨sign, hsign, rfl⟩ := exists_sign hspan
    split at h
    · cases h
    · rename_i ds tail hne hds
      cases h
      obtain ⟨rfl, hdigits, -⟩ := spanDigits_eq_iff.mp hds
      rw [List.append_nil]
      exact .mk hsign hne hdigits
  · rintro ⟨hsign, hne, hdigits⟩
    rename_i sign ds negative
    have hspan : spanSign (sign ++ ds) = (negative, ds) :=
      spanSign_append hsign fun c hc => not_sign_of_isDigit (hdigits c (List.mem_of_mem_head? hc))
    unfold exponent?
    rw [hspan]
    dsimp only
    rw [spanDigits_of_digits hdigits]
    cases ds with
    | nil => exact absurd rfl hne
    | cons d ds => rfl

/-- Where negative numbers exist, a whole number is read like a power of ten. -/
theorem wholeNumber?_eq (hlow : low < 0) : wholeNumber? low high cs =
    (exponent? cs).bind fun p => if p.2 = [] ∧ low ≤ p.1 ∧ p.1 ≤ high then some p.1 else none := by
  obtain ⟨⟨negative, rest⟩, hspan⟩ : ∃ p, spanSign cs = p := ⟨_, rfl⟩
  unfold wholeNumber? exponent?
  rw [hspan]
  unfold spanSign at hspan
  split at hspan <;> cases hspan
  · split
    · rename_i hplus
      cases hplus
    · rename_i hminus
      cases hminus
      rewrite [if_pos hlow]
      rcases hds : spanDigits rest with ⟨_ | ⟨d, ds⟩, _ | ⟨c, tail⟩⟩ <;> simp [hds]
    · rename_i hminus
      exact absurd rfl (hminus _)
  · rcases hds : spanDigits rest with ⟨_ | ⟨d, ds⟩, _ | ⟨c, tail⟩⟩ <;> simp [hds]
  · rename_i hminus hplus
    split
    · exact absurd rfl (hplus _)
    · exact absurd rfl (hminus _)
    · rcases hds : spanDigits cs with ⟨_ | ⟨d, ds⟩, _ | ⟨c, tail⟩⟩ <;> simp [hds]

theorem wholeNumber?_eq_some_iff (hlow : low < 0) :
    wholeNumber? low high cs = some m ↔ SpellsWhole cs m ∧ low ≤ m ∧ m ≤ high := by
  rw [wholeNumber?_eq hlow, Option.bind_eq_some_iff]
  constructor
  · rintro ⟨⟨power, rest⟩, hpower, h⟩
    split at h
    · rename_i hbounds
      obtain ⟨rfl, hbounds⟩ := hbounds
      cases h
      exact ⟨exponent?_eq_some_iff.mp hpower, hbounds⟩
    · cases h
  · rintro ⟨hwhole, hbounds⟩
    exact ⟨(m, []), exponent?_eq_some_iff.mpr hwhole, if_pos ⟨rfl, hbounds⟩⟩

theorem SpellsWhole.unique {m' : ℤ} (h : SpellsWhole cs m) (h' : SpellsWhole cs m') : m = m' := by
  rw [← exponent?_eq_some_iff] at h h'
  cases h.symm.trans h'
  rfl

/-! ### Numerals -/

/-- What stands behind the digits of a numeral begins with no digit and no point. -/
theorem SpellsPower.head {p : List Char} (h : SpellsPower p power) :
    ∀ c ∈ p.head?, c.isDigit = false ∧ c ≠ '.' := by
  cases h with
  | absent => simp
  | marked hmark hwhole => rcases hmark with rfl | rfl <;> simp

/-- A numeral behind its sign begins with a digit or with a point. -/
theorem SpellsDigits.head (h : SpellsDigits body whole fraction) :
    ∃ c cs, body = c :: cs ∧ (c.isDigit = true ∨ c = '.') := by
  cases h with
  | whole hne hdigits =>
    obtain ⟨c, cs, rfl⟩ := List.exists_cons_of_ne_nil hne
    exact ⟨c, cs, rfl, Or.inl (hdigits c List.mem_cons_self)⟩
  | pointed hne hwhole hfraction =>
    cases whole with
    | nil => exact ⟨'.', fraction, rfl, Or.inr rfl⟩
    | cons c cs => exact ⟨c, cs ++ '.' :: fraction, rfl, Or.inl (hwhole c List.mem_cons_self)⟩

theorem spanSign_spells {p : List Char} (hsign : SpellsSign sign negative)
    (hbody : SpellsDigits body whole fraction) :
    spanSign (sign ++ (body ++ p)) = (negative, body ++ p) := by
  obtain ⟨c, cs, rfl, hc⟩ := hbody.head
  refine spanSign_append hsign fun d hd => ?_
  cases hd
  rcases hc with hc | rfl
  · exact not_sign_of_isDigit hc
  · decide

theorem spanDigits_append {p : List Char} (hdigits : ∀ c ∈ ds, c.isDigit = true)
    (hpower : SpellsPower p power) : spanDigits (ds ++ p) = (ds, p) :=
  spanDigits_eq_iff.mpr ⟨rfl, hdigits, fun c hc => (hpower.head c hc).1⟩

theorem exists_body {tail : List Char}
    (hpoint : (match rest with
      | '.' :: rest => spanDigits rest
      | rest => ([], rest)) = (fraction, tail))
    (hwhole : spanDigits cs = (whole, rest)) (hne : ¬ (whole.isEmpty && fraction.isEmpty) = true) :
    ∃ body, SpellsDigits body whole fraction ∧ cs = body ++ tail := by
  obtain ⟨rfl, hdigits, -⟩ := spanDigits_eq_iff.mp hwhole
  split at hpoint
  · obtain ⟨rfl, hfraction, -⟩ := spanDigits_eq_iff.mp hpoint
    refine ⟨_, .pointed ?_ hdigits hfraction, by simp⟩
    simpa [or_iff_not_imp_left] using hne
  · cases hpoint
    exact ⟨whole, .whole (by simpa using hne) hdigits, rfl⟩

theorem spells_of_plainNumeral? (h : plainNumeral? cs = some (negative, n)) :
    Spells cs negative n := by
  unfold plainNumeral? at h
  split at h
  rename_i hsign
  obtain ⟨sign, hspelt, rfl⟩ := exists_sign hsign
  split at h
  rename_i hwhole
  split at h
  rename_i hpoint
  split at h
  · cases h
  · rename_i hne
    obtain ⟨body, hbody, rfl⟩ := exists_body hpoint hwhole hne
    split at h
    · cases h
      exact .mk hspelt hbody .absent
    · split at h
      · rename_i hmark
        split at h
        · rename_i power hpower
          cases h
          exact .mk hspelt hbody (.marked hmark (exponent?_eq_some_iff.mp hpower))
        · cases h
        · cases h
      · cases h

theorem plainNumeral?_of_spells (h : Spells cs negative n) :
    plainNumeral? cs = some (negative, n) := by
  obtain ⟨hsign, hbody, hpower⟩ := h
  rename_i sign body p
  obtain ⟨whole, fraction, power⟩ := n
  unfold plainNumeral?
  rw [spanSign_spells hsign hbody]
  dsimp only at hbody hpower ⊢
  cases hbody with
  | whole hne hdigits =>
    rw [spanDigits_append hdigits hpower]
    cases hpower with
    | absent => simp [hne]
    | marked hmark hwhole =>
      have hread := exponent?_eq_some_iff.mpr hwhole
      rcases hmark with rfl | rfl <;> simp [hne, hread]
  | pointed hne hdigits hfraction =>
    have hpoint : spanDigits (whole ++ '.' :: fraction ++ p) = (whole, '.' :: (fraction ++ p)) :=
      spanDigits_eq_iff.mpr ⟨by simp, hdigits, by simp⟩
    have hsome : (whole.isEmpty && fraction.isEmpty) = false := by
      rcases hne with hne | hne <;> simp [hne]
    simp only [hpoint, spanDigits_append hfraction hpower, hsome]
    cases hpower with
    | absent => rfl
    | marked hmark hwhole => simp [hmark, exponent?_eq_some_iff.mpr hwhole]

theorem plainNumeral?_eq_some_iff :
    plainNumeral? cs = some (negative, n) ↔ Spells cs negative n :=
  ⟨spells_of_plainNumeral?, plainNumeral?_of_spells⟩

/-! ### Doubles -/

/-- A word is spanned whole behind its sign. -/
theorem spanSign_word {word : List Char} {name : String} (hsign : SpellsSign sign negative)
    (hword : word.map Char.toLower = name.toList)
    (hname : ∀ c ∈ name.toList.head?, c ≠ '-' ∧ c ≠ '+') :
    spanSign (sign ++ word) = (negative, word) := by
  refine spanSign_append hsign fun c hc => ?_
  obtain ⟨hminus, hplus⟩ := hname c.toLower (by rw [← hword, List.head?_map, hc]; rfl)
  constructor
  · rintro rfl
    exact hminus rfl
  · rintro rfl
    exact hplus rfl

theorem not_isAlpha_of_isDigit {c : Char} (h : c.isDigit = true) : c.isAlpha = false := by
  simp only [Char.isDigit, Char.isAlpha, Char.isUpper, Char.isLower, Bool.and_eq_true,
    Bool.or_eq_false_iff, Bool.and_eq_false_iff, decide_eq_true_eq, decide_eq_false_iff_not,
    UInt32.le_iff_toNat_le] at h ⊢
  simp at h ⊢
  omega

/-- No numeral is written like a word. -/
theorem SpellsDigits.not_word {p : List Char} (h : SpellsDigits body whole fraction) :
    (body ++ p).map Char.toLower ≠ "inf".toList ∧
      (body ++ p).map Char.toLower ≠ "infinity".toList ∧
      (body ++ p).map Char.toLower ≠ "nan".toList := by
  obtain ⟨c, cs, rfl, hc⟩ := h.head
  have halpha : c.toLower.isAlpha = false := by
    rw [Char.isAlpha_toLower_eq_isAlpha]
    rcases hc with hc | rfl
    · exact not_isAlpha_of_isDigit hc
    · rfl
  have hi : c.toLower ≠ 'i' := fun h => by simp [h] at halpha
  have hn : c.toLower ≠ 'n' := fun h => by simp [h] at halpha
  simp [hi, hn]

theorem freeNumber?_eq_some_iff {text : String} :
    freeNumber? text = some x ↔ Denotes text.toList x := by
  constructor
  · intro h
    unfold freeNumber? at h
    split at h
    rename_i negative word hspan
    obtain ⟨sign, hsign, hcs⟩ := exists_sign hspan
    dsimp only at h
    split at h
    · rename_i hword
      cases h
      rw [hcs]
      exact .infinite hsign hword
    · split at h
      · rename_i hword
        cases h
        rw [hcs]
        exact .nan hsign hword
      · obtain ⟨⟨minus, n⟩, hread, rfl⟩ := Option.map_eq_some_iff.mp h
        exact .numeral (plainNumeral?_eq_some_iff.mp hread)
  · intro h
    unfold freeNumber?
    generalize text.toList = cs at h
    cases h with
    | infinite hsign hword =>
      rw [hword.elim (fun h => spanSign_word hsign h (by simp))
        fun h => spanSign_word hsign h (by simp)]
      exact if_pos hword
    | nan hsign hword =>
      rw [spanSign_word hsign hword (by simp)]
      dsimp only
      rw [if_neg (by simp [hword]), if_pos hword]
    | numeral h =>
      have hread := plainNumeral?_eq_some_iff.mpr h
      obtain ⟨hsign, hbody, -⟩ := h
      obtain ⟨hinf, hinfinity, hnan⟩ := hbody.not_word
      rw [hread, spanSign_spells hsign hbody]
      dsimp only
      rw [if_neg (not_or.mpr ⟨hinf, hinfinity⟩), if_neg hnan]
      rfl

theorem isFinite_value (n : Numeral) (negative : Bool) :
    (n.value negative).isFinite = true ↔ (n.digits : ℚ) * 10 ^ n.exponent < limit := by
  unfold Numeral.value nearestSigned
  split
  · rw [isFinite_neg, isFinite_nearest]
  · exact isFinite_nearest _ _

theorem isFinite_infinite (negative : Bool) :
    (if negative then -(1.0 / 0.0) else 1.0 / 0.0 : Float).isFinite = false := by
  cases negative <;> decide

theorem Denotes.unique {text : String} {y : Float} (hx : Denotes text.toList x)
    (hy : Denotes text.toList y) : x = y := by
  rw [← freeNumber?_eq_some_iff] at hx hy
  exact Option.some.inj (hx.symm.trans hy)

/-- What a text denotes is finite when the text is a numeral below the limit. -/
theorem Denotes.isFinite_iff {text : String} (h : Denotes text.toList x) :
    x.isFinite = true ↔ SpellsFinite text.toList := by
  constructor
  · intro hfinite
    generalize text.toList = cs at h
    cases h with
    | infinite =>
      rw [isFinite_infinite] at hfinite
      cases hfinite
    | nan => exact absurd hfinite (by decide)
    | numeral hn => exact ⟨_, _, hn, (isFinite_value _ _).mp hfinite⟩
  · rintro ⟨negative, n, hn, hlt⟩
    rw [h.unique (.numeral hn)]
    exact (isFinite_value n negative).mpr hlt

end VolumePricing.Decimal
