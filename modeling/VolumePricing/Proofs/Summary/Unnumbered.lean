import VolumePricing.Http.Message
import VolumePricing.Proofs.Summary.Pricing
import VolumePricing.Summary.Wire

/-!
# Summaries without their numbers

The numbers of carts and lines tell them apart and have no part in the prices.
Carts that differ in numbers alone have summaries that differ in numbers alone,
and so do their summaries as they are written.
-/

namespace VolumePricing

def CartLine.unnumbered (line : CartLine) : CartLine := { line with cartItemId := 0 }

def Cart.unnumbered (cart : Cart) : Cart :=
  { cart with id := 0, items := cart.items.map (·.unnumbered) }

def ItemSummary.unnumbered (item : ItemSummary) : ItemSummary := { item with cartItemId := 0 }

def CartSummary.unnumbered (s : CartSummary) : CartSummary :=
  { s with cartId := s.cartId.map fun _ => 0, items := s.items.map (·.unnumbered) }

variable {tiers : List PriceTier} {lines lines' : List CartLine} {fallback : Float}
  {summary : CartSummary}

/-- The same items under other numbers give the same reading of everything else. -/
theorem ItemSummary.map_eq_of_unnumbered {β : Type} {items items' : List ItemSummary}
    {g : ItemSummary → β} (hg : ∀ i : ItemSummary, g i.unnumbered = g i)
    (h : items.map (·.unnumbered) = items'.map (·.unnumbered)) : items.map g = items'.map g := by
  have hmap := congrArg (List.map g) h
  simpa only [List.map_map, Function.comp_def, hg] using hmap

/-- Besides the lines themselves a summary shows what their quantities come to. -/
theorem priceLines_of_quantities (fallback : Float) (tiers : List PriceTier)
    (h : lines'.map (·.quantity) = lines.map (·.quantity)) :
    priceLines fallback lines' tiers = (priceLines fallback lines tiers).map fun summary =>
      { summary with
        items := lines'.map (·.summarize summary.tier fallback)
        subtotal :=
          sumAmounts ((lines'.map (·.summarize summary.tier fallback)).map (·.subtotal)) } := by
  unfold priceLines
  rw [h]
  cases hsum : Checked.sumInt64 (lines.map (·.quantity)) with
  | error o => rfl
  | ok sum =>
    cases hnext : nextTier tiers sum with
    | error o => simp [hnext, bind, Except.bind, Except.map]
    | ok next =>
      simp [hnext, bind, Except.bind, pure, Except.pure, Except.map]

/-- The lines of a summary are those of the cart, priced at its tier. -/
theorem priceLines_items (h : priceLines fallback lines tiers = .ok summary) :
    summary.cartId = none ∧ summary.items = lines.map (·.summarize summary.tier fallback) ∧
      summary.subtotal = sumAmounts (summary.items.map (·.subtotal)) :=
  have hlines := ofLines_of_priceLines h
  ⟨hlines.cartId, hlines.items, hlines.subtotal⟩

theorem priceLines_unnumbered (fallback : Float) (lines : List CartLine) (tiers : List PriceTier) :
    priceLines fallback (lines.map (·.unnumbered)) tiers =
      (priceLines fallback lines tiers).map (·.unnumbered) := by
  have hquantities : (lines.map (·.unnumbered)).map (·.quantity) = lines.map (·.quantity) := by
    rw [List.map_map]
    rfl
  rw [priceLines_of_quantities fallback tiers hquantities]
  cases hprice : priceLines fallback lines tiers with
  | error o => rfl
  | ok summary =>
    obtain ⟨hcart, hitems, hsubtotal⟩ := priceLines_items hprice
    simp only [Except.map, CartSummary.unnumbered, hcart, hitems, hsubtotal, List.map_map]
    rfl

theorem summarizeCart_unnumbered (fallback : Float) (cart : Option Cart) (tiers : List PriceTier) :
    (summarizeCart fallback (cart.map (·.unnumbered)) tiers).map (·.unnumbered) =
      (summarizeCart fallback cart tiers).map (·.unnumbered) := by
  cases cart with
  | none => rfl
  | some c =>
    have hlines := priceLines_unnumbered fallback c.items tiers
    simp only [Option.map_some, summarizeCart, Cart.unnumbered]
    rw [hlines]
    cases priceLines fallback c.items tiers with
    | error o => rfl
    | ok summary =>
      simp [Except.map, CartSummary.unnumbered, ItemSummary.unnumbered]

/-! ### Numbers in what is written -/

namespace Json

/-- The names of the members that show the number of a cart or a line. -/
def numberNames : List String := ["cart_id", "cart_item_id"]

/-- An integer becomes zero. -/
def zeroed : Json → Json
  | .int _ => .int 0
  | j => j

mutual

/-- The value with zero for every number of a cart or a line. -/
def unnumbered : Json → Json
  | .array items => .array (unnumberedItems items)
  | .object members => .object (unnumberedMembers members)
  | j => j

def unnumberedItems : List Json → List Json
  | [] => []
  | j :: js => j.unnumbered :: unnumberedItems js

def unnumberedMembers : List (String × Json) → List (String × Json)
  | [] => []
  | m :: ms =>
    (m.1, if numberNames.contains m.1 then m.2.zeroed else m.2.unnumbered) :: unnumberedMembers ms

end

end Json

/-- The body with zero for every number of a cart or a line. -/
def Http.Body.unnumbered : Http.Body → Http.Body
  | .json value => .json value.unnumbered
  | body => body

theorem ItemSummary.encode_unnumbered (item : ItemSummary) :
    (encode item.unnumbered).unnumbered = (encode item).unnumbered := by
  simp [encode, ItemSummary.unnumbered, Json.unnumbered, Json.unnumberedMembers, Json.numberNames,
    Json.zeroed]

theorem Json.unnumbered_encode_items (items : List ItemSummary) :
    (encode (items.map (·.unnumbered))).unnumbered = (encode items).unnumbered := by
  change Json.array (unnumberedItems ((items.map (·.unnumbered)).map encode)) =
    Json.array (unnumberedItems (items.map encode))
  congr 1
  induction items with
  | nil => rfl
  | cons item items ih =>
    simp only [List.map_cons, unnumberedItems, ItemSummary.encode_unnumbered, ih]

theorem CartSummary.encode_unnumbered (s : CartSummary) :
    (encode s.unnumbered).unnumbered = (encode s).unnumbered := by
  have hcart : (encode (s.cartId.map fun _ => (0 : UInt32))).zeroed = (encode s.cartId).zeroed := by
    cases s.cartId <;> rfl
  change Json.object (Json.unnumberedMembers _) = Json.object (Json.unnumberedMembers _)
  simp [Json.unnumberedMembers, Json.numberNames, CartSummary.unnumbered, hcart,
    Json.unnumbered_encode_items]

end VolumePricing
