import VolumePricing.Proofs.FirstMatch
import VolumePricing.Proofs.Pricing.Ranking
import VolumePricing.Proofs.Summary.Pricing
import VolumePricing.Store.Seed

/-!
# Three views of one price

A quote, the breakdown of a price and the summary of a cart are worked out apart
from each other, and all show the active tiers by rank. The quote finds the
tier of the order again by its id. As long as no id stands twice this is the row
of that tier and of no other, and the price in it is the one that the order and
every line of a cart of so many units get.
-/

namespace VolumePricing

open PriceTier Checked

variable {tiers : List PriceTier} {lines : List CartLine} {fallback : Float} {quantity : Int64}
  {s : CartSummary}

theorem map_flagFirst (cost : Float) (id : Option UInt32) (ts : List PriceTier) :
    (flagFirst cost id ts).map (fun row => (row.tier, row.calculatedPrice)) =
      ts.map fun t => (t, t.price cost) := by
  induction ts with
  | nil => rfl
  | cons t ts ih =>
    unfold flagFirst
    split
    · simp
    · rw [List.map_cons, ih, List.map_cons]

/-- The pass over the tiers flags the first one of the id. -/
theorem filter_flagFirst (cost : Float) (id : Option UInt32) (ts : List PriceTier) :
    (flagFirst cost id ts).filter (·.appliesNow) =
      ((ts.find? (some ·.id = id)).map fun t => ⟨t, t.price cost, true⟩).toList := by
  induction ts with
  | nil => rfl
  | cons t ts ih =>
    unfold flagFirst
    split
    · rename_i hid
      simp [hid]
    · rename_i hid
      rw [List.filter_cons_of_neg Bool.false_ne_true, ih, List.find?_cons_of_neg (by simpa using hid)]

theorem ids_ranked (h : (tiers.map (·.id)).Nodup) : ((ranked tiers).map (·.id)).Nodup := by
  have hperm := (StableSort.sort_perm (fun t : PriceTier => t.orderIndex)
    (tiers.filter (·.active))).map (·.id)
  exact hperm.nodup_iff.mpr (h.sublist (List.filter_sublist.map _))

/-- The one row that a quote flags. -/
theorem filter_quoteTiers (hids : (tiers.map (·.id)).Nodup) (cost : Float) (quantity : Int64) :
    (quoteTiers cost quantity tiers).tiers.filter (·.appliesNow) =
      ((resolve tiers quantity).map fun t => ⟨t, t.price cost, true⟩).toList := by
  rw [quoteTiers, filter_flagFirst]
  cases hresolve : resolve tiers quantity with
  | none => simp
  | some t =>
    obtain ⟨hmem, hactive, -⟩ := resolve_eq_some hresolve
    have hrow := find?_key_eq_of_mem (ids_ranked hids) (mem_ranked.mpr ⟨hmem, hactive⟩)
    simp only [Option.map_some, Option.some.injEq, hrow]

theorem map_tier_resolvePrice (cost : Float) (quantity : Int64) (tiers : List PriceTier) :
    (resolvePrice cost quantity tiers).allTiers.map (·.tier) = ranked tiers := by
  rw [resolvePrice, List.map_map]
  exact List.map_id _

/-- The price of an order that some tier prices. -/
theorem price_resolvePrice {t : PriceTier} (h : resolve tiers quantity = some t) (cost : Float) :
    (resolvePrice cost quantity tiers).price = t.price cost := by
  rw [resolvePrice, h, Option.elim_some]

/-- The summary of a cart shows the tiers as the price of so many units does, and every line at that
price. -/
structure CartSummary.PricedAs (s : CartSummary) (lines : List CartLine) (tiers : List PriceTier)
    (quantity : Int64) : Prop where
  totalQuantity : s.totalQuantity = quantity
  tier : s.tier = resolve tiers quantity
  allTiers : ∀ cost, s.allTiers = (resolvePrice cost quantity tiers).allTiers.map (·.tier)
  unitPrices : ∀ t, resolve tiers quantity = some t →
    s.items.map (fun i => (i.cost, i.unitPrice)) =
      lines.map fun l => (l.cost, (resolvePrice l.cost quantity tiers).price)

theorem pricedAs_of_priceLines (hsum : sumInt64 (lines.map (·.quantity)) = .ok quantity)
    (h : priceLines fallback lines tiers = .ok s) : s.PricedAs lines tiers quantity := by
  have hlines := ofLines_of_priceLines h
  obtain rfl : s.totalQuantity = quantity := Except.ok.inj (hlines.totalQuantity.symm.trans hsum)
  refine ⟨rfl, hlines.tier, ?_, ?_⟩
  · intro cost
    rw [hlines.allTiers, map_tier_resolvePrice]
  · intro t ht
    rw [hlines.items, List.map_map]
    apply List.map_congr_left
    intro line _
    rw [price_resolvePrice ht, hlines.tier, ht]
    rfl

/-- What the three views have in common. -/
theorem views_agree (hids : (tiers.map (·.id)).Nodup) (cost : Float) (quantity : Int64) :
    ((resolvePrice cost quantity tiers).allTiers.map (·.tier)).Perm (tiers.filter (·.active)) ∧
    (quoteTiers cost quantity tiers).tiers.map (fun row => (row.tier, row.calculatedPrice)) =
      (resolvePrice cost quantity tiers).allTiers.map (fun row => (row.tier, row.price)) ∧
    (quoteTiers cost quantity tiers).tiers.filter (·.appliesNow) =
      ((resolve tiers quantity).map fun t =>
        ⟨t, (resolvePrice cost quantity tiers).price, true⟩).toList ∧
    ∀ fallback lines, sumInt64 (lines.map (·.quantity)) = .ok quantity →
      (Overflows (priceLines fallback lines tiers) ↔ Overflows (nextTier tiers quantity)) ∧
      ∀ s, priceLines fallback lines tiers = .ok s → s.PricedAs lines tiers quantity := by
  refine ⟨?_, ?_, ?_, ?_⟩
  · rw [map_tier_resolvePrice]
    exact StableSort.sort_perm _ _
  · rw [quoteTiers, map_flagFirst, resolvePrice, List.map_map]
    rfl
  · rw [filter_quoteTiers hids]
    cases hresolve : resolve tiers quantity with
    | none => rfl
    | some t => simp only [Option.map_some, price_resolvePrice hresolve]
  · intro fallback lines hsum
    exact ⟨overflows_priceLines_of_sum hsum, fun s => pricedAs_of_priceLines hsum⟩

/-- Four shirts and three jackets under the tiers of a new shop. -/
theorem views_agree_seed :
    let lines : List CartLine :=
      [{ cartItemId := 1, productId := 1, productName := "Linen shirt", quantity := 4, cost := 4000.0 },
       { cartItemId := 2, productId := 2, productName := "Denim jacket", quantity := 3,
         cost := 12000.0 }]
    (Seed.tiers.map (·.id)).Nodup ∧ sumInt64 (lines.map (·.quantity)) = .ok 7 ∧
      (∃ t, resolve Seed.tiers 7 = some t ∧
        (quoteTiers 4000.0 7 Seed.tiers).tiers.filter (·.appliesNow) =
          [⟨t, (resolvePrice 4000.0 7 Seed.tiers).price, true⟩]) ∧
      ∃ s, priceLines defaultFallback lines Seed.tiers = .ok s ∧ s.PricedAs lines Seed.tiers 7 := by
  intro lines
  have hids : (Seed.tiers.map (·.id)).Nodup := by decide
  have hsum : sumInt64 (lines.map (·.quantity)) = .ok 7 := by decide +kernel
  obtain ⟨t, ht⟩ : ∃ t, resolve Seed.tiers 7 = some t :=
    Option.isSome_iff_exists.mp (by decide +kernel)
  obtain ⟨-, -, hflag, hlines⟩ := views_agree hids 4000.0 7
  obtain ⟨s, hs⟩ : ∃ s, priceLines defaultFallback lines Seed.tiers = .ok s :=
    exists_priceLines _ _ (by decide) (by decide +kernel)
  refine ⟨hids, hsum, ⟨t, ht, ?_⟩, s, hs, (hlines defaultFallback lines hsum).2 s hs⟩
  rw [hflag, ht]
  rfl

end VolumePricing
