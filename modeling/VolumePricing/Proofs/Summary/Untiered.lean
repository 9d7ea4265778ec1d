import VolumePricing.Proofs.Summary.Unnumbered

/-!
# Pricing without tiers

A cart that is priced without any tier has the lines and the units that it has
anyway, each line at the price it is stored with. It cannot be priced only where
it cannot be priced with tiers either: what overflows is the sum of the units,
and never the way to the next tier.
-/

namespace VolumePricing

open Checked

variable {fallback : Float} {lines : List CartLine} {tiers : List PriceTier} {s s' : CartSummary}

/-- What a line of a summary shows besides its price. -/
def ItemSummary.shown (i : ItemSummary) :
    UInt32 × UInt32 × String × String × Int64 × Float × String :=
  (i.cartItemId, i.productId, i.productName, i.variantName, i.quantity, i.cost, i.imageUrl)

/-- The second summary of the lines shows what the first one does but no tier, and every line at the
price it is stored with or, where none is stored, at a multiple of its cost. -/
structure CartSummary.Untiers (fallback : Float) (lines : List CartLine) (s s' : CartSummary) :
    Prop where
  cartId : s'.cartId = s.cartId
  totalQuantity : s'.totalQuantity = s.totalQuantity
  shown : s'.items.map (·.shown) = s.items.map (·.shown)
  ordered : s'.items.map (fun i => (i.productId, i.quantity, i.cost)) =
    lines.map fun l => (l.productId, l.quantity, l.cost)
  unitPrices : s'.items.map (·.unitPrice) =
    lines.map fun l => if l.wholesale == 0.0 then l.cost * fallback else l.wholesale
  tier : s'.tier = none
  nextTier : s'.nextTier = none
  allTiers : s'.allTiers = []

theorem untiers_empty (fallback : Float) : CartSummary.empty.Untiers fallback [] .empty :=
  ⟨rfl, rfl, rfl, rfl, rfl, rfl, rfl, rfl⟩

theorem CartSummary.Untiers.withCartId (h : s.Untiers fallback lines s') (cartId : Option UInt32) :
    CartSummary.Untiers fallback lines { s with cartId } { s' with cartId } :=
  ⟨rfl, h.totalQuantity, h.shown, h.ordered, h.unitPrices, h.tier, h.nextTier, h.allTiers⟩

theorem untiers_of_priceLines (h : priceLines fallback lines tiers = .ok s)
    (h' : priceLines fallback lines [] = .ok s') : s.Untiers fallback lines s' := by
  obtain ⟨hsum, -, -⟩ := priceLines_eq_ok h
  obtain ⟨hsum', htier, hnext⟩ := priceLines_eq_ok h'
  obtain ⟨hcart, hitems, -⟩ := priceLines_items h
  obtain ⟨hcart', hitems', -⟩ := priceLines_items h'
  have hnone : s'.tier = none := htier
  rw [hnone] at hitems'
  rw [hsum] at hsum'
  refine ⟨hcart'.trans hcart.symm, ?_, ?_, ?_, ?_, hnone, ?_, (ofLines_of_priceLines h').allTiers⟩
  · exact (Except.ok.inj hsum').symm
  · rw [hitems, hitems', List.map_map, List.map_map]
    rfl
  · rw [hitems', List.map_map]
    rfl
  · rw [hitems', List.map_map]
    rfl
  · exact (Except.ok.inj hnext).symm

/-- The tiers have no part in whether lines can be priced. -/
theorem priceLines_untiered (hq : ∀ line ∈ lines, 0 ≤ line.quantity.toInt) (fallback : Float)
    (tiers : List PriceTier) :
    (∃ o, priceLines fallback lines tiers = .error o ∧ priceLines fallback lines [] = .error o) ∨
      ∃ s s', priceLines fallback lines tiers = .ok s ∧ priceLines fallback lines [] = .ok s' ∧
        s.Untiers fallback lines s' := by
  cases hsum : sumInt64 (lines.map (·.quantity)) with
  | error o =>
    left
    refine ⟨o, ?_, ?_⟩ <;> simp [priceLines, hsum, bind, Except.bind]
  | ok sum =>
    right
    have hfits : total (lines.map (·.quantity)) ≤ Int64.maxValue.toInt := by
      rw [← toInt_of_sumInt64 hsum]
      exact sum.toInt_le
    obtain ⟨s, hs⟩ := exists_priceLines fallback tiers hq hfits
    obtain ⟨s', hs'⟩ := exists_priceLines fallback [] hq hfits
    exact ⟨s, s', hs, hs', untiers_of_priceLines hs hs'⟩

theorem summarizeCart_untiered {cart : Option Cart}
    (hq : ∀ line ∈ (cart.map (·.items)).getD [], 0 ≤ line.quantity.toInt) (fallback : Float)
    (tiers : List PriceTier) :
    (∃ o, summarizeCart fallback cart tiers = .error o ∧
        summarizeCart fallback cart [] = .error o) ∨
      ∃ s s', summarizeCart fallback cart tiers = .ok s ∧ summarizeCart fallback cart [] = .ok s' ∧
        s.Untiers fallback ((cart.map (·.items)).getD []) s' := by
  cases cart with
  | none => exact Or.inr ⟨.empty, .empty, rfl, rfl, untiers_empty fallback⟩
  | some c =>
    simp only [Option.map_some, Option.getD_some] at hq ⊢
    rcases priceLines_untiered hq fallback tiers with ⟨o, h, h'⟩ | ⟨s, s', h, h', huntiers⟩
    · left
      refine ⟨o, ?_, ?_⟩
      · rw [summarizeCart, h]
        rfl
      · rw [summarizeCart, h']
        rfl
    · right
      refine ⟨{ s with cartId := some c.id }, { s' with cartId := some c.id }, ?_, ?_, ?_⟩
      · rw [summarizeCart, h]
        rfl
      · rw [summarizeCart, h']
        rfl
      · exact huntiers.withCartId (some c.id)

end VolumePricing
