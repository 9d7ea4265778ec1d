import VolumePricing.Proofs.Service.InMemory

/-!
# Carts kept elsewhere

A cart that is not stored is priced when all of its items can be sold. It is
bounded like a stored one: its units must have a word.
-/

namespace VolumePricing

open VolumePricing.Action Checked

/-- So many units of a product that there is. -/
def ItemRequest.Sellable (m : Memory) (item : ItemRequest) : Prop :=
  0 < item.quantity.toInt ∧ (m.products.get? item.productId).isSome = true

namespace Service

variable {settings : HubSettings} {authority : Authority} {shop : Shop Memory}

/-- The first step of the lines from a place on. -/
theorem run_guestLines_cons (place : Nat) (item : ItemRequest) (items : List ItemRequest) :
    (inMemory settings authority).guestLines place (item :: items) shop =
      if item.quantity ≤ 0 then .ok (.error .quantityNotPositive, shop)
      else
        match shop.store.products.get? item.productId with
        | none => .ok (.error (.store (.productMissing item.productId)), shop)
        | some p => ((inMemory settings authority).guestLines (place + 1) items shop).map fun q =>
          (q.1.map (p.guestLine place item.quantity :: ·), q.2) := by
  by_cases hq : item.quantity ≤ 0
  · simp [guestLines, hq]
  · simp only [guestLines, if_neg hq, run_bind, run_product]
    cases shop.store.products.get? item.productId with
    | none => rfl
    | some p =>
      dsimp only
      rcases (inMemory settings authority).guestLines (place + 1) items shop with
        o | ⟨e | lines, shop'⟩ <;> rfl

/-- Items that can all be sold are lines of the same quantities; otherwise there are no lines. -/
theorem run_guestLines (settings : HubSettings) (authority : Authority) (shop : Shop Memory)
    (place : Nat) (items : List ItemRequest) :
    (∀ item ∈ items, item.Sellable shop.store) ∧
        (∃ lines, (inMemory settings authority).guestLines place items shop =
          .ok (.ok lines, shop) ∧ lines.map (·.quantity) = items.map (·.quantity)) ∨
      ¬ (∀ item ∈ items, item.Sellable shop.store) ∧
        ∃ refusal, (inMemory settings authority).guestLines place items shop =
          .ok (.error refusal, shop) := by
  induction items generalizing place with
  | nil => exact Or.inl ⟨by simp, [], rfl, rfl⟩
  | cons item items ih =>
    rw [run_guestLines_cons]
    by_cases hq : item.quantity ≤ 0
    · refine Or.inr ⟨fun h => ?_, _, if_pos hq⟩
      have hpos := (h item List.mem_cons_self).1
      rw [Int64.le_iff_toInt_le, Int64.toInt_zero] at hq
      omega
    · rw [if_neg hq]
      have hpos : 0 < item.quantity.toInt := Int64.not_nonpos_iff.mp hq
      cases hp : shop.store.products.get? item.productId with
      | none =>
        refine Or.inr ⟨fun h => ?_, _, rfl⟩
        have hproduct := (h item List.mem_cons_self).2
        simp [hp] at hproduct
      | some p =>
        have hsellable : item.Sellable shop.store := ⟨hpos, by simp [hp]⟩
        rcases ih (place + 1) with ⟨hall, lines, hlines, hquantities⟩ | ⟨hnot, refusal, hrefused⟩
        · left
          refine ⟨List.forall_mem_cons.mpr ⟨hsellable, hall⟩,
            p.guestLine place item.quantity :: lines, ?_, ?_⟩
          · simp only [hlines, Except.map]
          · simp [Product.guestLine, hquantities]
        · right
          refine ⟨fun h => hnot (List.forall_mem_cons.mp h).2, refusal, ?_⟩
          simp only [hrefused, Except.map]

theorem run_price (lines : List CartLine) (shop : Shop Memory) :
    call (Shop.price Memory.store settings lines) shop =
      (priceLines settings.fallback lines (shop.store.tiers.list false)).map fun summary =>
        (.ok summary, shop) := by
  rw [run_call, Shop.price, run_bind, Memory.run_activeTiers]
  cases hprice : priceLines settings.fallback lines (shop.store.tiers.list false) <;>
    simp [hprice, Except.map, Except.mapError]

/-- A cart kept elsewhere overflows when all of it can be sold and its units have no word. -/
theorem overflows_guestPrice (items : List ItemRequest) :
    Overflows ((inMemory settings authority).guestPrice ⟨items⟩ shop) ↔
      (∀ item ∈ items, item.Sellable shop.store) ∧
        Int64.maxValue.toInt < total (items.map (·.quantity)) := by
  have hprice : ∀ lines : List CartLine, AllFilled lines →
      (Overflows (call (Shop.price Memory.store settings lines) shop) ↔
        Int64.maxValue.toInt < total (lines.map (·.quantity))) := by
    intro lines hfilled
    have hlines : ∀ line ∈ lines, 0 ≤ line.quantity.toInt := fun line h => (hfilled line h).le
    rw [run_price, overflows_map, overflows_priceLines hlines]
  rw [guestPrice, Action.overflows_bind]
  rcases run_guestLines settings authority shop 0 items with ⟨hall, lines, hlines, hquantities⟩ | ⟨hnot, refusal, hrefused⟩
  · have hfilled : AllFilled lines := by
      intro line hline
      have hmem : line.quantity ∈ items.map (·.quantity) :=
        hquantities ▸ List.mem_map_of_mem hline
      obtain ⟨item, hitem, hq⟩ := List.mem_map.mp hmem
      exact hq ▸ (hall item hitem).1
    rw [← hquantities, ← hprice lines hfilled, and_iff_right hall]
    simp only [hlines, not_overflows_ok, false_or, Except.ok.injEq, Prod.mk.injEq]
    constructor
    · rintro ⟨_, _, ⟨rfl, rfl⟩, h⟩
      exact h
    · intro h
      exact ⟨_, _, ⟨rfl, rfl⟩, h⟩
  · simp [hnot, hrefused]

end Service

end VolumePricing
