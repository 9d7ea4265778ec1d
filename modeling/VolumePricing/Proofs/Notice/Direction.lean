import VolumePricing.Proofs.Notice.Promises

/-!
# The direction of a move

A cart that grows moves to a tier of higher threshold, if it moves at all, and
one that shrinks to a tier of lower threshold. A cart that reaches no tier is
the exception: it falls back on the default tier, whose own threshold may lie
above the one that a larger cart reaches. Between two such carts a shopper who
adds units is told of a loss, and one who takes them out of a gain.
-/

namespace VolumePricing

open PriceTier

variable {policy : NoticePolicy} {previous current : CartSummary} {now : Instant}
  {tiers : List PriceTier} {lines lines' : List CartLine} {fallback fallback' : Float}
  {small large : Int64} {d r : PriceTier}

/-- A small order reaches no tier, and the default tier that it falls back on asks for more units
than the tier that a large order reaches. -/
structure Inverted (tiers : List PriceTier) (small large : Int64) (d r : PriceTier) : Prop where
  unreached : NoneReached tiers small
  default : fallback? tiers = some d
  priced : resolve tiers large = some r
  reached : r.reachedAt large = true
  above : r.minQuantity < d.minQuantity

/-- More units never lead to a lower threshold, unless the fewer ones fell back on the default. -/
theorem inverted_of_resolve (hle : small ≤ large) (hsmall : resolve tiers small = some d)
    (hlarge : resolve tiers large = some r) (habove : r.minQuantity < d.minQuantity) :
    Inverted tiers small large d r := by
  have hne : r ≠ d := by
    rintro rfl
    exact Int64.lt_irrefl habove
  have hout : d.reachedAt small = false := by
    by_contra hreached
    rw [Bool.not_eq_false] at hreached
    obtain ⟨u, hu, hsame | hnew⟩ := resolve_of_reachedAt_of_le hle hsmall hreached
    · rw [hlarge] at hu
      cases hu
      exact hne hsame
    · rw [hlarge] at hu
      cases hu
      rw [reachedAt_iff] at hreached
      rw [not_reachedAt_iff] at hnew
      rw [Int64.lt_iff_toInt_lt] at habove
      omega
  obtain ⟨hnone, hdefault⟩ := (resolve_eq_some_iff_of_not_reachedAt hout).mp hsmall
  refine ⟨hnone, hdefault, hlarge, ?_, habove⟩
  obtain ⟨-, -, hreached | ⟨-, hfallback⟩⟩ := resolve_eq_some hlarge
  · exact hreached
  · rw [hdefault] at hfallback
    exact absurd (Option.some.inj hfallback).symm hne

theorem Inverted.resolve_small (h : Inverted tiers small large d r) :
    resolve tiers small = some d := by
  rw [resolve_of_noneReached h.unreached, h.default]

/-- The two tiers are told apart by their ids where all tiers are. -/
theorem Inverted.id_ne (h : Inverted tiers small large d r) (hids : (tiers.map (·.id)).Nodup) :
    r.id ≠ d.id := by
  intro hid
  have hr := (resolve_eq_some h.priced).1
  have hd := (resolve_eq_some h.resolve_small).1
  have hsame : r = d := List.inj_on_of_nodup_map hids hr hd hid
  have habove := h.above
  rw [hsame] at habove
  exact Int64.lt_irrefl habove

namespace NoticePolicy

/-- A growing cart is told of a lost tier, and a shrinking one of an unlocked tier, exactly where
the smaller of the two falls back on a default tier of higher threshold than the tier that the
larger one reaches. -/
theorem evaluate_direction (policy : NoticePolicy) (now : Instant)
    (hids : (tiers.map (·.id)).Nodup) (hprevious : priceLines fallback lines tiers = .ok previous)
    (hcurrent : priceLines fallback' lines' tiers = .ok current) :
    (previous.totalQuantity ≤ current.totalQuantity →
      ((∃ last n, policy.evaluate previous current last now = some n ∧ n.kind = .tierLost) ↔
        ∃ d r, Inverted tiers previous.totalQuantity current.totalQuantity d r)) ∧
    (current.totalQuantity ≤ previous.totalQuantity →
      ((∃ last n, policy.evaluate previous current last now = some n ∧ n.kind = .tierUnlocked) ↔
        ∃ d r, Inverted tiers current.totalQuantity previous.totalQuantity d r)) := by
  have hp := tier_of_priceLines hprevious
  have hc := tier_of_priceLines hcurrent
  constructor
  · intro hle
    constructor
    · rintro ⟨last, n, hn, hkind⟩
      have hreason := Notice.reason_of_candidate (candidate_of_evaluate hn)
      rw [hkind] at hreason
      obtain ⟨d, r, hmoves, hbelow, -⟩ := hreason
      have hsmall := hp.symm.trans hmoves.left
      have hlarge := hc.symm.trans hmoves.reached
      exact ⟨d, r, inverted_of_resolve hle hsmall hlarge hbelow⟩
    · rintro ⟨d, r, h⟩
      have hmoves : Notice.Moves previous current d r :=
        ⟨hp.trans h.resolve_small, hc.trans h.priced, h.id_ne hids⟩
      refine ⟨none, Notice.lost r, ?_, rfl⟩
      rw [evaluate_none, Notice.candidate_eq_some_iff]
      exact Or.inr (Or.inl ⟨d, r, hmoves, h.above, rfl⟩)
  · intro hle
    constructor
    · rintro ⟨last, n, hn, hkind⟩
      have hreason := Notice.reason_of_candidate (candidate_of_evaluate hn)
      rw [hkind] at hreason
      obtain ⟨r, d, _, hmoves, habove, -, -⟩ := hreason
      have hsmall := hc.symm.trans hmoves.reached
      have hlarge := hp.symm.trans hmoves.left
      exact ⟨d, r, inverted_of_resolve hle hsmall hlarge habove⟩
    · rintro ⟨d, r, h⟩
      have hmoves : Notice.Moves previous current r d :=
        ⟨hp.trans h.priced, hc.trans h.resolve_small, (h.id_ne hids).symm⟩
      refine ⟨none, Notice.unlocked d (Notice.savingsOf previous current), ?_, rfl⟩
      rw [evaluate_none, Notice.candidate_eq_some_iff]
      exact Or.inl ⟨r, d, _, hmoves, h.above, Notice.tellsSavings_iff.mpr rfl, rfl⟩

/-- The default tier of a new shop asks for nothing, so nobody there loses a tier by adding to
the cart. -/
theorem evaluate_direction_seed :
    ∃ previous current, (Seed.tiers.map (·.id)).Nodup ∧
      priceLines defaultFallback [Seed.shirtLine 5] Seed.tiers = .ok previous ∧
      priceLines defaultFallback [Seed.shirtLine 12] Seed.tiers = .ok current ∧
      previous.totalQuantity ≤ current.totalQuantity ∧
      ∀ last n, evaluate {} previous current last 0 = some n → n.kind ≠ .tierLost := by
  obtain ⟨previous, hprevious⟩ :
      ∃ s, priceLines defaultFallback [Seed.shirtLine 5] Seed.tiers = .ok s := ⟨_, rfl⟩
  obtain ⟨current, hcurrent⟩ :
      ∃ s, priceLines defaultFallback [Seed.shirtLine 12] Seed.tiers = .ok s := ⟨_, rfl⟩
  have hids : (Seed.tiers.map (·.id)).Nodup := by decide
  have hle : previous.totalQuantity ≤ current.totalQuantity := by
    cases hprevious
    cases hcurrent
    decide
  refine ⟨previous, current, hids, hprevious, hcurrent, hle, ?_⟩
  intro last n hn hkind
  obtain ⟨d, r, hinverted⟩ :=
    ((evaluate_direction {} 0 hids hprevious hcurrent).1 hle).mp ⟨last, n, hn, hkind⟩
  have hunreached := hinverted.unreached
  cases hprevious
  revert hunreached
  unfold NoneReached
  decide

end NoticePolicy

/-- A default tier from ten units on, ranked behind the tier from five units on. -/
def Seed.defaultTen : PriceTier :=
  { id := 2, displayName := "Ten", minQuantity := 10, orderIndex := 2, isDefault := true }

/-- One shirt falls back on the tier from ten units on. Going from there to seven is called a
loss, and going back a gain. -/
theorem NoticePolicy.evaluate_against_direction :
    ∃ one seven lost gained, ([Seed.fromFive, Seed.defaultTen].map (·.id)).Nodup ∧
      priceLines defaultFallback [Seed.shirtLine 1] [Seed.fromFive, Seed.defaultTen] = .ok one ∧
      priceLines defaultFallback [Seed.shirtLine 7] [Seed.fromFive, Seed.defaultTen] = .ok seven ∧
      one.totalQuantity < seven.totalQuantity ∧
      evaluate {} one seven none 0 = some lost ∧ lost.kind = .tierLost ∧
      evaluate {} seven one none 0 = some gained ∧ gained.kind = .tierUnlocked := by
  exact ⟨_, _, _, _, by decide, rfl, rfl, by decide, rfl, rfl, rfl, rfl⟩

end VolumePricing
