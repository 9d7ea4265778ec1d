import VolumePricing.Notice.Policy
import VolumePricing.Store.Seed

/-!
# The four reasons for a notice

A shopper hears of a better tier, of a worse one, of being one unit short of the
next tier, or of sitting on the threshold of the own one. Each reason is stated
for itself here, and of several that hold the first one counts. What is said in
the end follows this table but for one gap: next to a tier that is one unit away
nobody is warned of the threshold.
-/

namespace VolumePricing

namespace Notice

variable {previous current : CartSummary} {n : Notice}

/-- Both summaries have a tier, and not the same one. -/
structure Moves (previous current : CartSummary) (p c : PriceTier) : Prop where
  left : previous.tier = some p
  reached : current.tier = some c
  another : c.id ≠ p.id

/-- What the cart became cheaper by is told exactly when it became cheaper. -/
structure TellsSavings (previous current : CartSummary) (savings : Option Float) : Prop where
  told : 0.0 < previous.subtotal - current.subtotal →
    savings = some (previous.subtotal - current.subtotal)
  untold : ¬ 0.0 < previous.subtotal - current.subtotal → savings = none

def Unlocks (previous current : CartSummary) (n : Notice) : Prop :=
  ∃ p c savings, Moves previous current p c ∧ p.minQuantity < c.minQuantity ∧
    TellsSavings previous current savings ∧ n = unlocked c savings

def Loses (previous current : CartSummary) (n : Notice) : Prop :=
  ∃ p c, Moves previous current p c ∧ c.minQuantity < p.minQuantity ∧ n = lost c

def IsNear (previous current : CartSummary) (n : Notice) : Prop :=
  ∃ next, current.nextTier = some next ∧ next.quantityToUnlock = 1 ∧
    previous.totalQuantity < current.totalQuantity ∧ n = near current.tierId next

def IsNearLoss (previous current : CartSummary) (n : Notice) : Prop :=
  ∃ p c, previous.tier = some p ∧ current.tier = some c ∧ c.id = p.id ∧
    current.totalQuantity < previous.totalQuantity ∧ current.totalQuantity = c.minQuantity ∧
    n = nearLoss c

/-- The first of the rules that gives any notice gives this one. -/
def FirstGives : List (Notice → Prop) → Notice → Prop
  | [], _ => False
  | rule :: rules, n => rule n ∨ (∀ m, ¬ rule m) ∧ FirstGives rules n

def rules (previous current : CartSummary) : List (Notice → Prop) :=
  [Unlocks previous current, Loses previous current, IsNear previous current,
    IsNearLoss previous current]

theorem Moves.unique {p c p' c' : PriceTier} (h : Moves previous current p c)
    (h' : Moves previous current p' c') : p' = p ∧ c' = c := by
  constructor
  · exact Option.some.inj (h'.left.symm.trans h.left)
  · exact Option.some.inj (h'.reached.symm.trans h.reached)

theorem tellsSavings_iff {savings : Option Float} :
    TellsSavings previous current savings ↔ savings = savingsOf previous current := by
  by_cases hpos : 0.0 < previous.subtotal - current.subtotal
  · have hof : savingsOf previous current = some (previous.subtotal - current.subtotal) :=
      if_pos hpos
    rw [hof]
    exact ⟨fun h => h.told hpos, fun h => ⟨fun _ => h, fun hno => absurd hpos hno⟩⟩
  · have hof : savingsOf previous current = none := if_neg hpos
    rw [hof]
    exact ⟨fun h => h.untold hpos, fun h => ⟨fun hyes => absurd hyes hpos, fun _ => h⟩⟩

/-- A cart cannot have moved up and down at once. -/
theorem not_unlocks_of_loses (h : Loses previous current n) (m : Notice) :
    ¬ Unlocks previous current m := by
  rintro ⟨p, c, savings, hmoves, hup, -, -⟩
  obtain ⟨p', c', hmoves', hdown, -⟩ := h
  obtain ⟨rfl, rfl⟩ := hmoves.unique hmoves'
  rw [Int64.lt_iff_toInt_lt] at hup hdown
  omega

theorem move?_eq_some_iff :
    move? previous current = some n ↔ Unlocks previous current n ∨ Loses previous current n := by
  constructor
  · intro h
    unfold move? at h
    split at h
    · rename_i p c hp hc
      split at h
      · rename_i hup
        cases h
        exact Or.inl ⟨p, c, _, ⟨hp, hc, hup.1⟩, hup.2, tellsSavings_iff.mpr rfl, rfl⟩
      · split at h
        · rename_i hdown
          cases h
          exact Or.inr ⟨p, c, ⟨hp, hc, hdown.1⟩, hdown.2, rfl⟩
        · cases h
    · cases h
  · rintro (⟨p, c, savings, ⟨hp, hc, hid⟩, hup, hsavings, rfl⟩ | ⟨p, c, ⟨hp, hc, hid⟩, hdown, rfl⟩)
    · rw [tellsSavings_iff.mp hsavings]
      simp [move?, hp, hc, hid, hup]
    · have hup : ¬ p.minQuantity < c.minQuantity := by
        rw [Int64.lt_iff_toInt_lt] at hdown ⊢
        omega
      simp [move?, hp, hc, hid, hup, hdown]

theorem nearLoss?_eq_some_iff :
    nearLoss? previous current = some n ↔ IsNearLoss previous current n := by
  constructor
  · intro h
    unfold nearLoss? at h
    split at h
    · rename_i p c hp hc
      split at h
      · rename_i hat
        cases h
        exact ⟨p, c, hp, hc, hat.1, hat.2.2, hat.2.1, rfl⟩
      · cases h
    · cases h
  · rintro ⟨p, c, hp, hc, hid, hless, hat, rfl⟩
    simp [nearLoss?, hp, hc, hid, ← hat, hless]

theorem move?_eq_none_iff :
    move? previous current = none ↔
      (∀ m, ¬ Unlocks previous current m) ∧ ∀ m, ¬ Loses previous current m := by
  simp only [Option.eq_none_iff_forall_ne_some, ne_eq, move?_eq_some_iff, not_or, forall_and]

/-- The tier after this one is a single unit away. -/
def NextIsOneAway (current : CartSummary) : Prop :=
  ∃ next, current.nextTier = some next ∧ next.quantityToUnlock = 1

theorem IsNear.nextIsOneAway (h : IsNear previous current n) : NextIsOneAway current := by
  obtain ⟨next, hsome, hone, -, -⟩ := h
  exact ⟨next, hsome, hone⟩

/-- Without a move, a tier one unit away decides alone whether anything is said. -/
theorem candidate_of_move?_eq_none (hmove : move? previous current = none) :
    candidate previous current = some n ↔
      IsNear previous current n ∨ ¬ NextIsOneAway current ∧ IsNearLoss previous current n := by
  unfold candidate
  rw [hmove]
  cases hnext : current.nextTier.filter (·.quantityToUnlock = 1) with
  | some next =>
    obtain ⟨hsome, hfilter⟩ := Option.filter_eq_some_iff.mp hnext
    have hone : next.quantityToUnlock = 1 := by simpa using hfilter
    have haway : NextIsOneAway current := ⟨next, hsome, hone⟩
    dsimp only
    constructor
    · intro h
      split at h
      · rename_i hgrew
        cases h
        exact Or.inl ⟨next, hsome, hone, hgrew, rfl⟩
      · cases h
    · rintro (⟨next', hsome', -, hgrew, rfl⟩ | ⟨hno, -⟩)
      · have heq : next' = next := Option.some.inj (hsome'.symm.trans hsome)
        rw [heq]
        exact if_pos hgrew
      · exact absurd haway hno
  | none =>
    have haway : ¬ NextIsOneAway current := by
      rintro ⟨next, hsome, hone⟩
      simp [hsome, hone] at hnext
    dsimp only
    constructor
    · intro h
      exact Or.inr ⟨haway, nearLoss?_eq_some_iff.mp h⟩
    · rintro (hnear | ⟨-, hloss⟩)
      · exact absurd hnear.nextIsOneAway haway
      · exact nearLoss?_eq_some_iff.mpr hloss

theorem candidate_eq_some_iff :
    candidate previous current = some n ↔
      Unlocks previous current n ∨ Loses previous current n ∨
        move? previous current = none ∧
          (IsNear previous current n ∨ ¬ NextIsOneAway current ∧ IsNearLoss previous current n) := by
  cases hmove : move? previous current with
  | some m =>
    have hmoved : candidate previous current = some m := by simp [candidate, hmove]
    have hm : some m = some n ↔ Unlocks previous current n ∨ Loses previous current n := by
      rw [← hmove]
      exact move?_eq_some_iff
    simp only [hmoved, hm, reduceCtorEq, false_and, or_false]
  | none =>
    obtain ⟨hup, hdown⟩ := move?_eq_none_iff.mp hmove
    simp only [hup n, hdown n, false_or, true_and]
    exact candidate_of_move?_eq_none hmove

theorem Unlocks.kind_eq (h : Unlocks previous current n) : n.kind = .tierUnlocked := by
  obtain ⟨p, c, savings, -, -, -, rfl⟩ := h
  rfl

theorem Loses.kind_eq (h : Loses previous current n) : n.kind = .tierLost := by
  obtain ⟨p, c, -, -, rfl⟩ := h
  rfl

theorem IsNear.kind_eq (h : IsNear previous current n) : n.kind = .nearTier := by
  obtain ⟨next, -, -, -, rfl⟩ := h
  rfl

theorem IsNearLoss.kind_eq (h : IsNearLoss previous current n) : n.kind = .nearTierLoss := by
  obtain ⟨p, c, -, -, -, -, -, rfl⟩ := h
  rfl

/-- The reason that a notice of this kind is given for. -/
def Reason (previous current : CartSummary) : NoticeKind → Notice → Prop
  | .tierUnlocked => Unlocks previous current
  | .tierLost => Loses previous current
  | .nearTier => IsNear previous current
  | .nearTierLoss => IsNearLoss previous current

/-- The kind of a notice tells which of the rules it came from. -/
theorem reason_of_candidate (h : candidate previous current = some n) :
    Reason previous current n.kind n := by
  rcases candidate_eq_some_iff.mp h with hup | hdown | ⟨-, hnear | ⟨-, hloss⟩⟩
  · rw [hup.kind_eq]
    exact hup
  · rw [hdown.kind_eq]
    exact hdown
  · rw [hnear.kind_eq]
    exact hnear
  · rw [hloss.kind_eq]
    exact hloss

end Notice

namespace NoticePolicy

variable {policy : NoticePolicy} {previous current : CartSummary} {n : Notice} {now : Instant}

/-- With nothing shown before, nothing is held back. -/
theorem evaluate_none :
    policy.evaluate previous current none now = Notice.candidate previous current := by
  unfold evaluate
  cases Notice.candidate previous current <;> rfl

open Notice

/-- What is said of two summaries is what the first of the four rules gives, except that the
last rule is not asked where the next tier is a single unit away. -/
theorem evaluate_eq_some_iff (policy : NoticePolicy) (previous current : CartSummary) (now : Instant)
    (n : Notice) :
    policy.evaluate previous current none now = some n ↔
      FirstGives (rules previous current) n ∧
        (n.kind = .nearTierLoss → ¬ NextIsOneAway current) := by
  rw [evaluate_none, candidate_eq_some_iff, move?_eq_none_iff]
  simp only [rules, FirstGives, and_false, or_false]
  constructor
  · rintro (hup | hdown | ⟨⟨hup, hdown⟩, hnear | ⟨haway, hloss⟩⟩)
    · refine ⟨Or.inl hup, fun hkind => ?_⟩
      cases hup.kind_eq.symm.trans hkind
    · refine ⟨Or.inr ⟨not_unlocks_of_loses hdown, Or.inl hdown⟩, fun hkind => ?_⟩
      cases hdown.kind_eq.symm.trans hkind
    · refine ⟨Or.inr ⟨hup, Or.inr ⟨hdown, Or.inl hnear⟩⟩, fun hkind => ?_⟩
      cases hnear.kind_eq.symm.trans hkind
    · have hnear : ∀ m, ¬ IsNear previous current m := fun m hm => haway hm.nextIsOneAway
      exact ⟨Or.inr ⟨hup, Or.inr ⟨hdown, Or.inr ⟨hnear, hloss⟩⟩⟩, fun _ => haway⟩
  · rintro ⟨hup | ⟨hup, hdown | ⟨hdown, hnear | ⟨-, hloss⟩⟩⟩, hgap⟩
    · exact Or.inl hup
    · exact Or.inr (Or.inl hdown)
    · exact Or.inr (Or.inr ⟨⟨hup, hdown⟩, Or.inl hnear⟩)
    · exact Or.inr (Or.inr ⟨⟨hup, hdown⟩, Or.inr ⟨hgap hloss.kind_eq, hloss⟩⟩)

end NoticePolicy

namespace Seed

def fromFive : PriceTier := { id := 1, displayName := "Five", minQuantity := 5, orderIndex := 1 }

def fromSix : PriceTier := { id := 2, displayName := "Six", minQuantity := 6, orderIndex := 2 }

def shirtLine (quantity : Int64) : CartLine :=
  { cartItemId := 1, productId := 1, productName := "Linen shirt", quantity, cost := 4000.0 }

end Seed

/-- Where the tier from five units ranks before the one from six, going from seven shirts down
to five is a case of the last rule; nothing is said of it. -/
theorem NoticePolicy.evaluate_silent_on_threshold :
    ∃ previous current,
      priceLines defaultFallback [Seed.shirtLine 7] [Seed.fromFive, Seed.fromSix] = .ok previous ∧
      priceLines defaultFallback [Seed.shirtLine 5] [Seed.fromFive, Seed.fromSix] = .ok current ∧
      Notice.FirstGives (Notice.rules previous current) (Notice.nearLoss Seed.fromFive) ∧
      ∀ (policy : NoticePolicy) now, policy.evaluate previous current none now = none := by
  refine ⟨_, _, rfl, rfl, ?_, ?_⟩
  · refine Or.inr ⟨(Notice.move?_eq_none_iff.mp ?_).1,
      Or.inr ⟨(Notice.move?_eq_none_iff.mp ?_).2, Or.inr ⟨?_, Or.inl ?_⟩⟩⟩
    · rfl
    · rfl
    · rintro m ⟨next, -, -, hgrew, -⟩
      exact absurd hgrew (by decide)
    · exact ⟨_, _, rfl, rfl, rfl, by decide, rfl, rfl⟩
  · intro policy now
    rw [evaluate_none]
    rfl

end VolumePricing
