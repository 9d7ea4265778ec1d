import VolumePricing.Proofs.Cart.Units
import VolumePricing.Proofs.Summary.Pricing
import VolumePricing.Store.Seed

/-!
# Pricing the whole cart

Whether a cart can be priced, and at which tier, is a matter of its units as a
whole. So its lines may stand in any order, each with the price that it has
anywhere else, and a line may be split into two of the same product.
-/

namespace VolumePricing

open Checked

variable {tiers : List PriceTier} {line a b : CartLine} {lines lines' rest : List CartLine}
  {fallback : Float} {s s' : CartSummary}

/-- What a line takes over from its product. -/
def CartLine.stock (line : CartLine) : UInt32 × Float × Float :=
  (line.productId, line.cost, line.wholesale)

theorem CartLine.unitPrice_of_stock (h : a.stock = b.stock) (tier : Option PriceTier)
    (fallback : Float) : a.unitPrice tier fallback = b.unitPrice tier fallback := by
  simp only [stock, Prod.mk.injEq] at h
  obtain ⟨-, hcost, hwholesale⟩ := h
  cases tier with
  | none => simp only [unitPrice, hcost, hwholesale]
  | some t => simp only [unitPrice, hcost]

/-- Each of the two lines holds something of the product, and together they hold what the line
does. -/
structure CartLine.SplitsInto (line a b : CartLine) : Prop where
  stock_left : a.stock = line.stock
  stock_right : b.stock = line.stock
  filled_left : 0 < a.quantity.toInt
  filled_right : 0 < b.quantity.toInt
  units : a.quantity.toInt + b.quantity.toInt = line.quantity.toInt

/-- Both summaries say the same of the cart as a whole. -/
structure CartSummary.SameReach (s s' : CartSummary) : Prop where
  totalQuantity : s'.totalQuantity = s.totalQuantity
  tier : s'.tier = s.tier
  nextTier : s'.nextTier = s.nextTier
  allTiers : s'.allTiers = s.allTiers

theorem AllFilled.split (h : AllFilled (line :: rest)) (hsplit : line.SplitsInto a b) :
    AllFilled (a :: b :: rest) := by
  intro l hl
  rcases List.mem_cons.mp hl with rfl | hl
  · exact hsplit.filled_left
  · rcases List.mem_cons.mp hl with rfl | hl
    · exact hsplit.filled_right
    · exact h l (List.mem_cons_of_mem _ hl)

theorem CartLine.SplitsInto.unitsOf_eq (h : line.SplitsInto a b) (rest : List CartLine) :
    unitsOf (a :: b :: rest) = unitsOf (line :: rest) := by
  have hunits := h.units
  rw [unitsOf_cons, unitsOf_cons, unitsOf_cons]
  omega

/-! ### Carts of the same units -/

theorem overflows_priceLines_congr (hlines : AllFilled lines) (hlines' : AllFilled lines')
    (hunits : unitsOf lines' = unitsOf lines) :
    Overflows (priceLines fallback lines' tiers) ↔ Overflows (priceLines fallback lines tiers) := by
  rw [overflows_priceLines fun line hline => (hlines line hline).le,
    overflows_priceLines fun line hline => (hlines' line hline).le]
  change Int64.maxValue.toInt < unitsOf lines' ↔ Int64.maxValue.toInt < unitsOf lines
  rw [hunits]

theorem sameReach_of_priceLines (hunits : unitsOf lines' = unitsOf lines)
    (h : priceLines fallback lines tiers = .ok s)
    (h' : priceLines fallback lines' tiers = .ok s') : s.SameReach s' := by
  have hlines := ofLines_of_priceLines h
  have hlines' := ofLines_of_priceLines h'
  have htotal : s'.totalQuantity = s.totalQuantity := by
    rw [← Int64.toInt_inj, toInt_of_sumInt64 hlines.totalQuantity,
      toInt_of_sumInt64 hlines'.totalQuantity]
    exact hunits
  refine ⟨htotal, ?_, ?_, ?_⟩
  · rw [hlines.tier, hlines'.tier, htotal]
  · have hnext := hlines'.next
    rw [htotal, hlines.next] at hnext
    exact (Except.ok.inj hnext).symm
  · rw [hlines.allTiers, hlines'.allTiers]

/-- A line has one summary wherever it stands. -/
theorem CartSummary.SameReach.items_getElem? (hreach : s.SameReach s')
    (h : priceLines fallback lines tiers = .ok s) (h' : priceLines fallback lines' tiers = .ok s')
    {i j : ℕ} (hij : lines'[i]? = lines[j]?) : s'.items[i]? = s.items[j]? := by
  rw [(ofLines_of_priceLines h).items, (ofLines_of_priceLines h').items, hreach.tier,
    List.getElem?_map, List.getElem?_map, hij]

/-- Lines of one product have one price. -/
theorem CartSummary.SameReach.unitPrice_getElem? (hreach : s.SameReach s')
    (h : priceLines fallback lines tiers = .ok s) (h' : priceLines fallback lines' tiers = .ok s')
    {i j : ℕ} (hij : (lines'[i]?).map (·.stock) = (lines[j]?).map (·.stock)) :
    (s'.items[i]?).map (·.unitPrice) = (s.items[j]?).map (·.unitPrice) := by
  rw [(ofLines_of_priceLines h).items, (ofLines_of_priceLines h').items, hreach.tier,
    List.getElem?_map, List.getElem?_map]
  cases hleft : lines'[i]? with
  | none =>
    cases hright : lines[j]? with
    | none => rfl
    | some y => simp [hleft, hright] at hij
  | some x =>
    cases hright : lines[j]? with
    | none => simp [hleft, hright] at hij
    | some y =>
      rw [hleft, hright] at hij
      have hprice := CartLine.unitPrice_of_stock (Option.some.inj hij) s.tier fallback
      simp only [Option.map_some, CartLine.summarize, hprice]

/-- The order of the lines has no part in what a cart is priced at, and neither has the way in which
the units of a product are spread over lines. -/
theorem priceLines_by_units (hfilled : AllFilled lines) (fallback : Float)
    (tiers : List PriceTier) :
    (∀ lines', lines'.Perm lines →
      (Overflows (priceLines fallback lines' tiers) ↔
        Overflows (priceLines fallback lines tiers)) ∧
      ∀ s s', priceLines fallback lines tiers = .ok s → priceLines fallback lines' tiers = .ok s' →
        s.SameReach s' ∧ s'.items.Perm s.items ∧
          ∀ i j : ℕ, lines'[i]? = lines[j]? → s'.items[i]? = s.items[j]?) ∧
    ∀ line a b rest lines', lines.Perm (line :: rest) → line.SplitsInto a b →
      lines'.Perm (a :: b :: rest) →
      (Overflows (priceLines fallback lines' tiers) ↔
        Overflows (priceLines fallback lines tiers)) ∧
      ∀ s s', priceLines fallback lines tiers = .ok s → priceLines fallback lines' tiers = .ok s' →
        s.SameReach s' ∧
          ∀ i j : ℕ, (lines'[i]?).map (·.stock) = (lines[j]?).map (·.stock) →
            (s'.items[i]?).map (·.unitPrice) = (s.items[j]?).map (·.unitPrice) := by
  constructor
  · intro lines' hperm
    have hunits := unitsOf_perm hperm
    refine ⟨overflows_priceLines_congr hfilled (hfilled.perm hperm) hunits, ?_⟩
    intro s s' h h'
    have hreach := sameReach_of_priceLines hunits h h'
    refine ⟨hreach, ?_, fun i j => hreach.items_getElem? h h'⟩
    rw [(ofLines_of_priceLines h).items, (ofLines_of_priceLines h').items, hreach.tier]
    exact hperm.map _
  · intro line a b rest lines' hlines hsplit hlines'
    have hunits : unitsOf lines' = unitsOf lines := by
      rw [unitsOf_perm hlines', unitsOf_perm hlines, hsplit.unitsOf_eq]
    have hfilled' : AllFilled lines' := by
      apply AllFilled.perm _ hlines'
      exact (hfilled.perm hlines.symm).split hsplit
    refine ⟨overflows_priceLines_congr hfilled hfilled' hunits, ?_⟩
    intro s s' h h'
    have hreach := sameReach_of_priceLines hunits h h'
    exact ⟨hreach, fun i j => hreach.unitPrice_getElem? h h'⟩

/-- Four shirts and three jackets: the jackets first, and the shirts on either side of them. -/
theorem priceLines_by_units_seed :
    let shirts : CartLine :=
      { cartItemId := 1, productId := 1, productName := "Linen shirt", quantity := 4, cost := 4000.0 }
    let jackets : CartLine :=
      { cartItemId := 2, productId := 2, productName := "Denim jacket", quantity := 3,
        cost := 12000.0 }
    let one := { shirts with cartItemId := 3, quantity := 1 }
    let three := { shirts with cartItemId := 4, quantity := 3 }
    AllFilled [shirts, jackets] ∧ shirts.SplitsInto one three ∧
      ∃ s s' s'', priceLines defaultFallback [shirts, jackets] Seed.tiers = .ok s ∧
        priceLines defaultFallback [jackets, shirts] Seed.tiers = .ok s' ∧
        priceLines defaultFallback [one, jackets, three] Seed.tiers = .ok s'' ∧
        s.SameReach s' ∧ s'.items[0]? = s.items[1]? ∧
        s.SameReach s'' ∧ (s''.items[2]?).map (·.unitPrice) = (s.items[0]?).map (·.unitPrice) := by
  intro shirts jackets one three
  have hfilled : AllFilled [shirts, jackets] := by unfold AllFilled; decide
  have hsplit : shirts.SplitsInto one three := ⟨rfl, rfl, by decide, by decide, by decide⟩
  obtain ⟨s, hs⟩ : ∃ s, priceLines defaultFallback [shirts, jackets] Seed.tiers = .ok s :=
    exists_priceLines _ _ (by decide) (by decide +kernel)
  obtain ⟨s', hs'⟩ : ∃ s, priceLines defaultFallback [jackets, shirts] Seed.tiers = .ok s :=
    exists_priceLines _ _ (by decide) (by decide +kernel)
  obtain ⟨s'', hs''⟩ : ∃ s, priceLines defaultFallback [one, jackets, three] Seed.tiers = .ok s :=
    exists_priceLines _ _ (by decide) (by decide +kernel)
  obtain ⟨hperm, hspread⟩ := priceLines_by_units hfilled defaultFallback Seed.tiers
  obtain ⟨hreach, -, hitems⟩ := (hperm [jackets, shirts] (.swap _ _ _)).2 s s' hs hs'
  obtain ⟨hreach', hprices⟩ := (hspread shirts one three [jackets] [one, jackets, three] (.refl _)
    hsplit (.cons _ (.swap _ _ _))).2 s s'' hs hs''
  exact ⟨hfilled, hsplit, s, s', s'', hs, hs', hs'', hreach, hitems 0 1 rfl, hreach',
    hprices 2 0 rfl⟩

end VolumePricing
