import VolumePricing.Proofs.Cart.Units
import VolumePricing.Proofs.Notice.Candidate
import VolumePricing.Proofs.Notice.Rules
import VolumePricing.Proofs.Pricing.Ranking
import VolumePricing.Proofs.Summary.Pricing

/-!
# What notices promise

A shopper who is told to add one more item expects the tier that was named, and
one who is warned of the next removal expects to lose the tier. Both notices
look at thresholds only, while a cart is priced by rank and may fall back on a
default tier. So the first promise is kept unless the cart is already priced by
a tier of better rank, and the second unless the cart is empty or falls back on
the very tier it was to lose.
-/

namespace VolumePricing

open PriceTier

variable {policy : NoticePolicy} {previous current : CartSummary} {last : Option LastNotice}
  {now : Instant} {n : Notice} {tiers : List PriceTier} {lines : List CartLine} {fallback : Float}

theorem units_of_priceLines (h : priceLines fallback lines tiers = .ok current) :
    current.totalQuantity.toInt = unitsOf lines :=
  Checked.toInt_of_sumInt64 (priceLines_eq_ok h).1

theorem tier_of_priceLines (h : priceLines fallback lines tiers = .ok current) :
    current.tier = resolve tiers current.totalQuantity :=
  (priceLines_eq_ok h).2.1

/-- What a cart shows as its next tier stands somewhere in the list. -/
theorem exists_isNext_of_priceLines {next : NextTier}
    (h : priceLines fallback lines tiers = .ok current) (hnext : current.nextTier = some next) :
    ∃ ahead t behind, tiers = ahead ++ t :: behind ∧ IsNext current.totalQuantity ahead t ∧
      next.displayName = t.displayName ∧
      next.quantityToUnlock.toInt = t.minQuantity.toInt - current.totalQuantity.toInt := by
  have hok := (priceLines_eq_ok h).2.2
  rw [hnext] at hok
  obtain ⟨t, hclosest, hname, hmissing⟩ := nextTier_eq_some hok
  obtain ⟨ahead, behind, htiers, hisNext⟩ := exists_isNext hclosest
  exact ⟨ahead, t, behind, htiers, hisNext, hname, hmissing⟩

/-- The only tier of a shop, and the one to fall back on. -/
def Seed.defaultFive : PriceTier := { Seed.fromFive with isDefault := true }

namespace NoticePolicy

/-! ### One more item -/

/-- Where a shop lists its tiers in their order, one more unit of whatever line brings a cart that
was told of a tier to this tier, unless the cart is priced by a tier that it reaches and that is
listed ahead: then it keeps that one. -/
theorem evaluate_nearTier_promise (hordered : Ordered tiers)
    (hcurrent : priceLines fallback lines tiers = .ok current)
    (hn : policy.evaluate previous current last now = some n) (hkind : n.kind = .nearTier) :
    n.message = "Add 1 more item to get " ++ n.tierName ++ "!" ∧
      ∃ ahead t behind, tiers = ahead ++ t :: behind ∧ t.active = true ∧
        t.displayName = n.tierName ∧ t.minQuantity.toInt = unitsOf lines + 1 ∧
        ∀ more, unitsOf more = unitsOf lines + 1 →
          ((∀ line ∈ more, 0 ≤ line.quantity.toInt) →
            ∃ summary, priceLines fallback more tiers = .ok summary) ∧
          ∀ summary, priceLines fallback more tiers = .ok summary →
            (PricedAmong ahead current.tier current.totalQuantity →
              summary.tier = current.tier) ∧
            (¬ PricedAmong ahead current.tier current.totalQuantity →
              summary.tier = some t) := by
  have hcandidate := candidate_of_evaluate hn
  have hreason := Notice.reason_of_candidate hcandidate
  rw [hkind] at hreason
  obtain ⟨next, hnext, hone, -, rfl⟩ := hreason
  obtain ⟨ahead, t, behind, htiers, hisNext, hname, hmissing⟩ :=
    exists_isNext_of_priceLines hcurrent hnext
  have hunits := units_of_priceLines hcurrent
  have hstep : t.minQuantity.toInt = current.totalQuantity.toInt + 1 := by
    rw [hone] at hmissing
    have hval : (1 : Int64).toInt = 1 := rfl
    omega
  refine ⟨rfl, ahead, t, behind, htiers, hisNext.active, hname.symm, by omega, ?_⟩
  intro more hmore
  constructor
  · intro hnonneg
    refine exists_priceLines fallback tiers hnonneg ?_
    have hmax := t.minQuantity.toInt_lt
    rw [Int64.toInt_maxValue]
    change unitsOf more ≤ _
    omega
  · intro summary hsummary
    have hmoreUnits := units_of_priceLines hsummary
    rw [tier_of_priceLines hsummary, tier_of_priceLines hcurrent]
    exact hisNext.resolve_one_more htiers hordered hstep (by omega)

/-- At five shirts the sixth is announced, and brings the tier from six units on. -/
theorem evaluate_nearTier_promise_sixth :
    ∃ previous current n summary, Ordered (ranked Seed.tiers) ∧
      priceLines defaultFallback [Seed.shirtLine 5] (ranked Seed.tiers) = .ok current ∧
      evaluate {} previous current none 0 = some n ∧ n.kind = .nearTier ∧
      priceLines defaultFallback [Seed.shirtLine 6] (ranked Seed.tiers) = .ok summary ∧
      summary.tier.map (·.displayName) = some n.tierName := by
  obtain ⟨previous, hprevious⟩ :
      ∃ s, priceLines defaultFallback [Seed.shirtLine 4] (ranked Seed.tiers) = .ok s := ⟨_, rfl⟩
  obtain ⟨current, hcurrent⟩ :
      ∃ s, priceLines defaultFallback [Seed.shirtLine 5] (ranked Seed.tiers) = .ok s := ⟨_, rfl⟩
  obtain ⟨n, hn, hkind⟩ : ∃ n, evaluate {} previous current none 0 = some n ∧ n.kind = .nearTier := by
    cases hprevious
    cases hcurrent
    exact ⟨_, rfl, rfl⟩
  have hordered : Ordered (ranked Seed.tiers) := by decide
  obtain ⟨-, ahead, t, behind, -, -, hname, -, hmore⟩ :=
    evaluate_nearTier_promise hordered hcurrent hn hkind
  obtain ⟨hpriced, htier⟩ := hmore [Seed.shirtLine 6] (by decide)
  obtain ⟨summary, hsummary⟩ := hpriced (by decide)
  refine ⟨previous, current, n, summary, hordered, hcurrent, hn, hkind, hsummary, ?_⟩
  have hmoved : summary.tier ≠ current.tier := by
    cases hcurrent
    cases hsummary
    decide
  have hkept := (htier summary hsummary).2 fun hpricedAmong =>
    hmoved ((htier summary hsummary).1 hpricedAmong)
  rw [hkept, Option.map_some, hname]

/-- Where the tier from five units ranks before the one from six, the shopper who has five is
promised the other one, and with six still has the first. -/
theorem evaluate_nearTier_unkept :
    ∃ previous current more n, ([Seed.fromFive, Seed.fromSix].map (·.id)).Nodup ∧
      Ordered [Seed.fromFive, Seed.fromSix] ∧
      priceLines defaultFallback [Seed.shirtLine 4] [Seed.fromFive, Seed.fromSix] = .ok previous ∧
      priceLines defaultFallback [Seed.shirtLine 5] [Seed.fromFive, Seed.fromSix] = .ok current ∧
      evaluate {} previous current none 0 = some n ∧ n.kind = .nearTier ∧ n.tierName = "Six" ∧
      priceLines defaultFallback [Seed.shirtLine 6] [Seed.fromFive, Seed.fromSix] = .ok more ∧
      more.tier.map (·.displayName) = some "Five" := by
  exact ⟨_, _, _, _, by decide, by decide, rfl, rfl, rfl, rfl, rfl, rfl, rfl⟩

/-! ### One item less -/

/-- A warned cart sits on the threshold of its tier, and is empty when this is zero. With one unit
less of whatever lines it has another tier or none, unless no active tier is reached then and the
tier is the one that such carts fall back on. -/
theorem evaluate_nearTierLoss_warning (hids : (tiers.map (·.id)).Nodup) (hfilled : AllFilled lines)
    (hcurrent : priceLines fallback lines tiers = .ok current)
    (hn : policy.evaluate previous current last now = some n) (hkind : n.kind = .nearTierLoss) :
    ∃ t ∈ tiers, t.active = true ∧ current.tier = some t ∧ n.tierId = some t.id ∧
      n.message = "Careful! Removing one more item will lose " ++ t.displayName ++ "." ∧
      t.minQuantity.toInt = unitsOf lines ∧ (lines = [] ↔ t.minQuantity = 0) ∧
      ∀ fewer, (∀ line ∈ fewer, 0 ≤ line.quantity.toInt) → unitsOf fewer + 1 = unitsOf lines →
        ∃ summary, priceLines fallback fewer tiers = .ok summary ∧
          (summary.tierId = some t.id ↔
            NoneReached tiers summary.totalQuantity ∧ fallback? tiers = some t) := by
  have hcandidate := candidate_of_evaluate hn
  have hreason := Notice.reason_of_candidate hcandidate
  rw [hkind] at hreason
  obtain ⟨p, t, -, htier, -, -, hat, rfl⟩ := hreason
  have hunits := units_of_priceLines hcurrent
  rw [hat] at hunits
  have hresolve := tier_of_priceLines hcurrent
  rw [htier] at hresolve
  obtain ⟨hmem, hactive, -⟩ := resolve_eq_some hresolve.symm
  have hempty : lines = [] ↔ t.minQuantity = 0 := by
    rw [← hfilled.unitsOf_eq_zero_iff, ← hunits, ← Int64.toInt_inj, Int64.toInt_zero]
  refine ⟨t, hmem, hactive, htier, rfl, rfl, hunits, hempty, ?_⟩
  intro fewer hnonneg hfewer
  have hmax := t.minQuantity.toInt_lt
  obtain ⟨summary, hsummary⟩ : ∃ summary, priceLines fallback fewer tiers = .ok summary := by
    refine exists_priceLines fallback tiers hnonneg ?_
    rw [Int64.toInt_maxValue]
    change unitsOf fewer ≤ _
    omega
  have hfewerUnits := units_of_priceLines hsummary
  have hout : t.reachedAt summary.totalQuantity = false := by
    rw [not_reachedAt_iff]
    omega
  refine ⟨summary, hsummary, ?_⟩
  rw [← resolve_eq_some_iff_of_not_reachedAt hout, ← tier_of_priceLines hsummary]
  constructor
  · intro hid
    obtain ⟨u, hu, huid⟩ := Option.map_eq_some_iff.mp hid
    have humem := (resolve_eq_some ((tier_of_priceLines hsummary).symm.trans hu)).1
    rw [hu, List.inj_on_of_nodup_map hids humem hmem huid]
  · intro hsame
    rw [CartSummary.tierId, hsame, Option.map_some]

/-- At twelve shirts the warning is true: with eleven the tier is another one. -/
theorem evaluate_nearTierLoss_warning_twelfth :
    ∃ previous current n summary, (Seed.tiers.map (·.id)).Nodup ∧ AllFilled [Seed.shirtLine 12] ∧
      priceLines defaultFallback [Seed.shirtLine 12] Seed.tiers = .ok current ∧
      evaluate {} previous current none 0 = some n ∧ n.kind = .nearTierLoss ∧
      priceLines defaultFallback [Seed.shirtLine 11] Seed.tiers = .ok summary ∧
      summary.tierId ≠ n.tierId := by
  obtain ⟨previous, hprevious⟩ :
      ∃ s, priceLines defaultFallback [Seed.shirtLine 13] Seed.tiers = .ok s := ⟨_, rfl⟩
  obtain ⟨current, hcurrent⟩ :
      ∃ s, priceLines defaultFallback [Seed.shirtLine 12] Seed.tiers = .ok s := ⟨_, rfl⟩
  obtain ⟨n, hn, hkind⟩ :
      ∃ n, evaluate {} previous current none 0 = some n ∧ n.kind = .nearTierLoss := by
    cases hprevious
    cases hcurrent
    exact ⟨_, rfl, rfl⟩
  have hids : (Seed.tiers.map (·.id)).Nodup := by decide
  have hfilled : AllFilled [Seed.shirtLine 12] := by
    unfold AllFilled
    decide
  obtain ⟨t, -, -, -, hid, -, hmin, -, hfewer⟩ :=
    evaluate_nearTierLoss_warning hids hfilled hcurrent hn hkind
  obtain ⟨summary, hsummary, hiff⟩ := hfewer [Seed.shirtLine 11] (by decide) (by decide)
  refine ⟨previous, current, n, summary, hids, hfilled, hcurrent, hn, hkind, hsummary, ?_⟩
  -- The tier from six units on is reached by eleven.
  have hreached : ¬ NoneReached Seed.tiers summary.totalQuantity := by
    cases hsummary
    unfold NoneReached
    decide
  rw [hid]
  exact fun hsame => hreached (hiff.mp hsame).1

/-- Who takes the last shirt out is warned in front of an empty cart, and who goes down to the
threshold of a default tier does not lose it below. -/
theorem evaluate_nearTierLoss_untrue :
    (∃ previous current n, (Seed.tiers.map (·.id)).Nodup ∧
      priceLines defaultFallback [Seed.shirtLine 1] Seed.tiers = .ok previous ∧
      priceLines defaultFallback [] Seed.tiers = .ok current ∧
      evaluate {} previous current none 0 = some n ∧ n.kind = .nearTierLoss ∧
      current.totalQuantity = 0) ∧
    ∃ previous current fewer n,
      priceLines defaultFallback [Seed.shirtLine 6] [Seed.defaultFive] = .ok previous ∧
      priceLines defaultFallback [Seed.shirtLine 5] [Seed.defaultFive] = .ok current ∧
      evaluate {} previous current none 0 = some n ∧ n.kind = .nearTierLoss ∧
      priceLines defaultFallback [Seed.shirtLine 4] [Seed.defaultFive] = .ok fewer ∧
      fewer.tierId = n.tierId := by
  constructor
  · exact ⟨_, _, _, by decide, rfl, rfl, rfl, rfl, rfl⟩
  · exact ⟨_, _, _, _, rfl, rfl, rfl, rfl, rfl, rfl⟩

end NoticePolicy

end VolumePricing
