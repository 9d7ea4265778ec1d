import VolumePricing.Proofs.Pricing.Least
import VolumePricing.Proofs.Words
import VolumePricing.Summary.Basic

/-!
# What pricing comes to

A cart is priced as soon as its quantities have a total: the way to the next
tier is then a matter of two numbers of one sign. Where no tier is active the
summary shows neither a tier nor a next one.
-/

namespace VolumePricing

open Checked

variable {tiers : List PriceTier} {lines : List CartLine} {quantity : Int64} {fallback : Float}

/-- The closest tier is an active one that is not yet reached. -/
theorem closestAbove_eq_some {t : PriceTier} (h : closestAbove tiers quantity = some t) :
    t ∈ tiers ∧ t.active = true ∧ quantity < t.minQuantity := by
  rcases foldl_lesser_mem h with hmem | hnone
  · simp only [List.mem_filter, PriceTier.reachedAt, Bool.and_eq_true, Bool.not_eq_true',
      decide_eq_false_iff_not] at hmem
    exact ⟨hmem.1, hmem.2.1, Int64.not_le.mp hmem.2.2⟩
  · cases hnone

theorem nextTier_of_none (h : closestAbove tiers quantity = none) :
    nextTier tiers quantity = .ok none := by
  rw [nextTier, h]

theorem nextTier_of_some {t : PriceTier} (h : closestAbove tiers quantity = some t) :
    nextTier tiers quantity = (subInt64 t.minQuantity quantity).map fun missing =>
      some ⟨t.displayName, t.minQuantity, missing⟩ := by
  simp only [nextTier, h]
  cases subInt64 t.minQuantity quantity <;> rfl

/-- The missing units of an order that is not negative fit into their word. -/
theorem not_overflows_nextTier (hq : 0 ≤ quantity.toInt) :
    ¬ Overflows (nextTier tiers quantity) := by
  cases hclosest : closestAbove tiers quantity with
  | none => simp [nextTier_of_none hclosest]
  | some t =>
    have hlt := Int64.lt_iff_toInt_lt.mp (closestAbove_eq_some hclosest).2.2
    have hmax := t.minQuantity.toInt_lt
    rw [nextTier_of_some hclosest, overflows_map, overflows_subInt64 hlt.le, Int64.toInt_maxValue]
    omega

theorem nextTier_eq_some_iff {next : NextTier} : nextTier tiers quantity = .ok (some next) ↔
    ∃ t, closestAbove tiers quantity = some t ∧ next.displayName = t.displayName ∧
      next.minQuantity = t.minQuantity ∧
      next.quantityToUnlock.toInt = t.minQuantity.toInt - quantity.toInt := by
  cases hclosest : closestAbove tiers quantity with
  | none => simp [nextTier_of_none hclosest]
  | some t =>
    rw [nextTier_of_some hclosest]
    simp only [Option.some.injEq, exists_eq_left', ← subInt64_eq_ok]
    cases subInt64 t.minQuantity quantity with
    | error o => simp [Except.map]
    | ok missing =>
      cases next
      simp only [Except.map, Except.ok.injEq, Option.some.injEq, NextTier.mk.injEq, eq_comm]

theorem nextTier_eq_some {next : NextTier} (h : nextTier tiers quantity = .ok (some next)) :
    ∃ t, closestAbove tiers quantity = some t ∧ next.displayName = t.displayName ∧
      next.quantityToUnlock.toInt = t.minQuantity.toInt - quantity.toInt := by
  obtain ⟨t, ht, hname, -, hmissing⟩ := nextTier_eq_some_iff.mp h
  exact ⟨t, ht, hname, hmissing⟩

/-- All that the summary of loose lines says: the tiers follow from the units, and the prices from
the tier. -/
structure CartSummary.OfLines (s : CartSummary) (fallback : Float) (lines : List CartLine)
    (tiers : List PriceTier) : Prop where
  cartId : s.cartId = none
  totalQuantity : sumInt64 (lines.map (·.quantity)) = .ok s.totalQuantity
  tier : s.tier = resolve tiers s.totalQuantity
  next : VolumePricing.nextTier tiers s.totalQuantity = .ok s.nextTier
  allTiers : s.allTiers = PriceTier.ranked tiers
  items : s.items = lines.map (·.summarize s.tier fallback)
  subtotal : s.subtotal = sumAmounts (s.items.map (·.subtotal))

theorem ofLines_of_priceLines {s : CartSummary} (h : priceLines fallback lines tiers = .ok s) :
    s.OfLines fallback lines tiers := by
  unfold priceLines at h
  cases hsum : sumInt64 (lines.map (·.quantity)) with
  | error o =>
    rw [hsum] at h
    cases h
  | ok sum =>
    cases hnext : nextTier tiers sum with
    | error o =>
      simp only [hsum, bind, Except.bind, hnext] at h
      cases h
    | ok next =>
      simp only [hsum, bind, Except.bind, hnext] at h
      cases h
      exact ⟨rfl, hsum, rfl, hnext, rfl, rfl, rfl⟩

theorem priceLines_eq_ok {summary : CartSummary} (h : priceLines fallback lines tiers = .ok summary) :
    sumInt64 (lines.map (·.quantity)) = .ok summary.totalQuantity ∧
      summary.tier = resolve tiers summary.totalQuantity ∧
      nextTier tiers summary.totalQuantity = .ok summary.nextTier :=
  have hlines := ofLines_of_priceLines h
  ⟨hlines.totalQuantity, hlines.tier, hlines.next⟩

/-- Lines whose quantities have a total are priced unless the way to the next tier has no number. -/
theorem overflows_priceLines_of_sum (hsum : sumInt64 (lines.map (·.quantity)) = .ok quantity) :
    Overflows (priceLines fallback lines tiers) ↔ Overflows (nextTier tiers quantity) := by
  unfold priceLines
  rw [hsum]
  change Overflows (nextTier tiers quantity >>= _) ↔ _
  rw [overflows_bind]
  constructor
  · rintro (h | ⟨next, -, hok⟩)
    · exact h
    · exact absurd hok (not_overflows_ok _)
  · exact Or.inl

/-- A cart is priced unless its quantities have no total. -/
theorem overflows_priceLines (hq : ∀ line ∈ lines, 0 ≤ line.quantity.toInt) :
    Overflows (priceLines fallback lines tiers) ↔
      Int64.maxValue.toInt < total (lines.map (·.quantity)) := by
  have hlines : ∀ q ∈ lines.map (·.quantity), 0 ≤ q.toInt := by
    simpa using hq
  rw [← overflows_sumInt64 hlines]
  cases hsum : sumInt64 (lines.map (·.quantity)) with
  | error o => simp [priceLines, hsum, bind, Except.bind]
  | ok sum =>
    have hnonneg : 0 ≤ sum.toInt := by
      rw [(sumInt64_eq_ok hlines sum).mp hsum]
      exact total_nonneg hlines
    simp [overflows_priceLines_of_sum hsum, not_overflows_nextTier hnonneg]

theorem exists_priceLines (fallback : Float) (tiers : List PriceTier)
    (hq : ∀ line ∈ lines, 0 ≤ line.quantity.toInt)
    (hfits : total (lines.map (·.quantity)) ≤ Int64.maxValue.toInt) :
    ∃ summary, priceLines fallback lines tiers = .ok summary := by
  by_contra hno
  have hover : Overflows (priceLines fallback lines tiers) := by
    rw [overflows_iff]
    intro summary hsummary
    exact hno ⟨summary, hsummary⟩
  have hlarge := (overflows_priceLines hq).mp hover
  omega

theorem overflows_summarizeCart {cart : Option Cart}
    (hq : ∀ c, cart = some c → ∀ line ∈ c.items, 0 ≤ line.quantity.toInt) :
    Overflows (summarizeCart fallback cart tiers) ↔
      ∃ c, cart = some c ∧ Int64.maxValue.toInt < total (c.items.map (·.quantity)) := by
  cases cart with
  | none => simp [summarizeCart]
  | some c => simp [summarizeCart, overflows_priceLines (hq c rfl)]

section NoTiers

variable (hnone : ∀ t ∈ tiers, t.active = false)
include hnone

theorem resolve_of_none_active : resolve tiers quantity = none := by
  have hranked : PriceTier.ranked tiers = [] := by
    refine List.eq_nil_iff_forall_not_mem.mpr fun t ht => ?_
    obtain ⟨hmem, hactive⟩ := PriceTier.mem_ranked.mp ht
    exact absurd hactive (by simp [hnone t hmem])
  simp [resolve, hranked]

theorem closestAbove_of_none_active : closestAbove tiers quantity = none := by
  cases h : closestAbove tiers quantity with
  | none => rfl
  | some t =>
    obtain ⟨hmem, hactive, -⟩ := closestAbove_eq_some h
    exact absurd hactive (by simp [hnone t hmem])

/-- Where no tier is active, the summary has none and none to come. -/
theorem summarizeCart_of_none_active {cart : Option Cart} {summary : CartSummary}
    (h : summarizeCart fallback cart tiers = .ok summary) :
    summary.tier = none ∧ summary.nextTier = none := by
  cases cart with
  | none =>
    cases h
    exact ⟨rfl, rfl⟩
  | some c =>
    simp only [summarizeCart, priceLines, nextTier, closestAbove_of_none_active hnone,
      resolve_of_none_active hnone] at h
    cases hsum : sumInt64 (c.items.map (·.quantity)) with
    | error o =>
      rw [hsum] at h
      cases h
    | ok sum =>
      rw [hsum] at h
      cases h
      exact ⟨rfl, rfl⟩

end NoTiers

end VolumePricing
