import VolumePricing.Pricing.Money
import VolumePricing.Summary.Basic

/-!
# Price notices

A notice tells a shopper that the cart moved between tiers, or is one unit away
from doing so. It is found by comparing two consecutive summaries of the cart;
of several reasons only the first counts.
-/

namespace VolumePricing

inductive NoticeKind
  | tierUnlocked
  | tierLost
  | nearTier
  | nearTierLoss
  deriving DecidableEq, Repr, Inhabited

def NoticeKind.tag : NoticeKind → String
  | .tierUnlocked => "tier_unlocked"
  | .tierLost => "tier_lost"
  | .nearTier => "near_tier"
  | .nearTierLoss => "near_tier_loss"

def NoticeKind.ofTag? (tag : String) : Option NoticeKind :=
  if tag = "tier_unlocked" then some .tierUnlocked
  else if tag = "tier_lost" then some .tierLost
  else if tag = "near_tier" then some .nearTier
  else if tag = "near_tier_loss" then some .nearTierLoss
  else none

@[simp] theorem NoticeKind.ofTag?_tag (k : NoticeKind) : ofTag? k.tag = some k := by
  cases k <;> rfl

structure Notice where
  kind : NoticeKind
  message : String
  /-- The tier of the cart when the notice was found, if it had one. -/
  tierId : Option UInt32
  tierName : String
  savings : Option Float := none
  itemsNeeded : Option Int64 := none
  deriving DecidableEq, Repr

namespace Notice

def unlocked (tier : PriceTier) (savings : Option Float) : Notice :=
  { kind := .tierUnlocked
    message :=
      match savings with
      | some amount =>
        "You now have " ++ tier.displayName ++ "! You are saving " ++ Money.text amount ++ " on this cart."
      | none =>
        "You now have " ++ tier.displayName ++ "! Every product in your cart got a better price."
    tierId := some tier.id
    tierName := tier.displayName
    savings := savings }

def lost (tier : PriceTier) : Notice :=
  { kind := .tierLost
    message := "You are back to " ++ tier.displayName ++ ". Prices have changed."
    tierId := some tier.id
    tierName := tier.displayName }

def near (tierId : Option UInt32) (next : NextTier) : Notice :=
  { kind := .nearTier
    message := "Add 1 more item to get " ++ next.displayName ++ "!"
    tierId := tierId
    tierName := next.displayName
    itemsNeeded := some 1 }

def nearLoss (tier : PriceTier) : Notice :=
  { kind := .nearTierLoss
    message := "Careful! Removing one more item will lose " ++ tier.displayName ++ "."
    tierId := some tier.id
    tierName := tier.displayName }

/-- What the cart became cheaper by, if it did. -/
def savingsOf (previous current : CartSummary) : Option Float :=
  let amount := previous.subtotal - current.subtotal
  if 0.0 < amount then some amount else none

/-- The notice of a move between two tiers. -/
def move? (previous current : CartSummary) : Option Notice :=
  match previous.tier, current.tier with
  | some p, some c =>
    if c.id ≠ p.id ∧ p.minQuantity < c.minQuantity then some (unlocked c (savingsOf previous current))
    else if c.id ≠ p.id ∧ c.minQuantity < p.minQuantity then some (lost c)
    else none
  | _, _ => none

/-- The notice of sitting exactly on the threshold after taking units out. -/
def nearLoss? (previous current : CartSummary) : Option Notice :=
  match previous.tier, current.tier with
  | some p, some c =>
    if c.id = p.id ∧ current.totalQuantity = c.minQuantity ∧
        current.totalQuantity < previous.totalQuantity then some (nearLoss c)
    else none
  | _, _ => none

/-- The notice that a change from one summary to the next deserves. Where the next
tier is one unit away, only a growing cart is told, and of nothing else. -/
def candidate (previous current : CartSummary) : Option Notice :=
  match move? previous current with
  | some n => some n
  | none =>
    match current.nextTier.filter (·.quantityToUnlock = 1) with
    | some next =>
      if previous.totalQuantity < current.totalQuantity then some (near current.tierId next) else none
    | none => nearLoss? previous current

end Notice

end VolumePricing
