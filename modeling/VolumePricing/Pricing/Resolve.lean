import VolumePricing.Checked
import VolumePricing.Tier.Basic

/-!
# Which tier prices an order

The ranked tiers are asked in turn. Of those whose threshold is met the one of
lowest order index prices the order; when none is met the first default tier
does, and when there is no default either the order has no tier. The next tier
is found by threshold alone, whatever its rank.
-/

namespace VolumePricing

/-- The entry of smaller key; the one held so far wins a tie. -/
def lesser {α κ : Type} [LE κ] [DecidableLE κ] (key : α → κ) (best : Option α) (x : α) : Option α :=
  match best with
  | none => some x
  | some b => if key b ≤ key x then some b else some x

/-- The tier that prices an order of `quantity` units. -/
def resolve (tiers : List PriceTier) (quantity : Int64) : Option PriceTier :=
  let ranked := PriceTier.ranked tiers
  ((ranked.filter (·.reachedAt quantity)).foldl (lesser (·.orderIndex)) none).or
    (ranked.find? (·.isDefault))

/-- One line of the breakdown shown beside a price. `applies` says that the
threshold is met, whichever tier prices the order. -/
structure TierQuote where
  tier : PriceTier
  price : Float
  applies : Bool

structure PriceResolution where
  price : Float
  tier : Option PriceTier
  allTiers : List TierQuote

def resolvePrice (cost : Float) (quantity : Int64) (tiers : List PriceTier) : PriceResolution :=
  let tier := resolve tiers quantity
  { price := tier.elim cost (·.price cost)
    tier := tier
    allTiers := (PriceTier.ranked tiers).map fun t => ⟨t, t.price cost, t.reachedAt quantity⟩ }

/-- A tier with its price, flagged when it is the one that prices the order. -/
structure CalculatedTier where
  tier : PriceTier
  calculatedPrice : Float
  appliesNow : Bool

structure TierCalculation where
  cost : Float
  quantity : Int64
  tiers : List CalculatedTier

/-- Flags the first tier with the given id, and no other. -/
def flagFirst (cost : Float) (id : Option UInt32) : List PriceTier → List CalculatedTier
  | [] => []
  | t :: ts =>
    if some t.id = id then ⟨t, t.price cost, true⟩ :: ts.map fun t => ⟨t, t.price cost, false⟩
    else ⟨t, t.price cost, false⟩ :: flagFirst cost id ts

/-- Prices every active tier and flags the one that applies right now. -/
def quoteTiers (cost : Float) (quantity : Int64) (tiers : List PriceTier) : TierCalculation :=
  { cost := cost
    quantity := quantity
    tiers := flagFirst cost ((resolve tiers quantity).map (·.id)) (PriceTier.ranked tiers) }

/-- The closest tier the buyer has not reached yet. -/
structure NextTier where
  displayName : String
  minQuantity : Int64
  quantityToUnlock : Int64
  deriving DecidableEq, Repr

/-- The active tier of smallest threshold above `quantity`, earliest in the list among equals. -/
def closestAbove (tiers : List PriceTier) (quantity : Int64) : Option PriceTier :=
  (tiers.filter fun t => t.active && !t.reachedAt quantity).foldl (lesser (·.minQuantity)) none

def nextTier (tiers : List PriceTier) (quantity : Int64) : Checked (Option NextTier) :=
  match closestAbove tiers quantity with
  | none => .ok none
  | some t => do
    let missing ← Checked.subInt64 t.minQuantity quantity
    return some ⟨t.displayName, t.minQuantity, missing⟩

end VolumePricing
