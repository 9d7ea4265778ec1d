import VolumePricing.Cart
import VolumePricing.Pricing.Resolve

/-!
# Cart summaries

A summary shows a cart with every line priced at the tier that the whole cart
reaches. Without a tier a line keeps its stored price, or a multiple of its
cost when none is stored. Only the units of the cart decide on the tier.
-/

namespace VolumePricing

structure ItemSummary where
  cartItemId : UInt32
  productId : UInt32
  productName : String
  variantName : String
  quantity : Int64
  cost : Float
  unitPrice : Float
  subtotal : Float
  imageUrl : String
  deriving DecidableEq, Repr

structure CartSummary where
  cartId : Option UInt32
  totalQuantity : Int64
  subtotal : Float
  items : List ItemSummary
  tier : Option PriceTier
  nextTier : Option NextTier
  allTiers : List PriceTier
  deriving DecidableEq, Repr

namespace CartSummary

/-- The summary of a shopper who has no cart. -/
def empty : CartSummary := ⟨none, 0, 0.0, [], none, none, []⟩

def tierId (s : CartSummary) : Option UInt32 := s.tier.map (·.id)

end CartSummary

/-- The price of one unit of a line in a cart priced by `tier`. -/
def CartLine.unitPrice (line : CartLine) (tier : Option PriceTier) (fallback : Float) : Float :=
  match tier with
  | some t => t.price line.cost
  | none => if line.wholesale == 0.0 then line.cost * fallback else line.wholesale

def CartLine.summarize (line : CartLine) (tier : Option PriceTier) (fallback : Float) : ItemSummary :=
  let unitPrice := line.unitPrice tier fallback
  { cartItemId := line.cartItemId
    productId := line.productId
    productName := line.productName
    variantName := line.variantName
    quantity := line.quantity
    cost := line.cost
    unitPrice := unitPrice
    subtotal := unitPrice * line.quantity.toFloat
    imageUrl := line.imageUrl }

/-- A sum of amounts from left to right. The sum of none is minus zero, which
changes no amount added to it. -/
def sumAmounts (xs : List Float) : Float := xs.foldl (· + ·) (-0.0)

/-- Prices loose lines, such as those of a cart that is not stored. -/
def priceLines (fallback : Float) (lines : List CartLine) (tiers : List PriceTier) :
    Checked CartSummary := do
  let total ← Checked.sumInt64 (lines.map (·.quantity))
  let tier := resolve tiers total
  let items := lines.map (·.summarize tier fallback)
  let next ← nextTier tiers total
  return {
    cartId := none
    totalQuantity := total
    subtotal := sumAmounts (items.map (·.subtotal))
    items := items
    tier := tier
    nextTier := next
    allTiers := PriceTier.ranked tiers }

/-- The summary of a stored cart, or of none. -/
def summarizeCart (fallback : Float) (cart : Option Cart) (tiers : List PriceTier) :
    Checked CartSummary :=
  match cart with
  | none => .ok .empty
  | some c => (priceLines fallback c.items tiers).map fun s => { s with cartId := some c.id }

/-- The multiple of the cost used where no other is configured. -/
def defaultFallback : Float := 2.0

end VolumePricing
