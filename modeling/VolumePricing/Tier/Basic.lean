import VolumePricing.StableSort
import VolumePricing.Text.Blank
import VolumePricing.Tier.Formula

/-!
# Price tiers

A tier is a named pricing rule that an order reaches at a threshold of units.
Active tiers are ranked by their order index, the lowest first; tiers of equal
index keep the order in which they are listed.
-/

namespace VolumePricing

structure PriceTier where
  id : UInt32 := 0
  name : String := ""
  displayName : String := ""
  formula : Formula := .multiplier
  multiplier : Float := 1.0
  percentage : Float := 0.0
  flatAmount : Float := 0.0
  minQuantity : Int64 := 0
  orderIndex : Int32 := 0
  active : Bool := true
  description : String := ""
  isDefault : Bool := false
  showInPublic : Bool := true
  colorCode : String := ""
  deriving DecidableEq, Repr, Inhabited

namespace PriceTier

/-- The sale price of a cost under the tier's formula. -/
def price (t : PriceTier) (cost : Float) : Float :=
  match t.formula with
  | .multiplier => cost * t.multiplier
  | .percentageMarkup => cost + cost * t.percentage / 100.0
  | .flatAmount => cost + t.flatAmount
  | .other _ => cost

/-- The order has as many units as the tier asks for. -/
def reachedAt (t : PriceTier) (quantity : Int64) : Bool := decide (t.minQuantity ≤ quantity)

/-- The active tiers, lowest order index first. -/
def ranked (tiers : List PriceTier) : List PriceTier :=
  StableSort.sort (·.orderIndex) (tiers.filter (·.active))

@[simp] theorem mem_ranked {t : PriceTier} {tiers : List PriceTier} :
    t ∈ ranked tiers ↔ t ∈ tiers ∧ t.active = true := by
  simp [ranked]

end PriceTier

/-- Why a tier or a change of one is refused. -/
inductive TierFault
  | missingName
  | missingFormula
  | unknownFormula (tag : String)
  deriving DecidableEq, Repr

def TierFault.message : TierFault → String
  | .missingName => "name and display_name are required"
  | .missingFormula => "formula_type is required"
  | .unknownFormula tag =>
    "formula_type must be 'multiplier', 'percentage_markup' or 'flat_amount', got '" ++ tag ++ "'"

/-- A tier submitted for creation needs names that are not blank and a known formula. -/
def PriceTier.validate (t : PriceTier) : Except TierFault Unit :=
  if Text.isBlank t.name || Text.isBlank t.displayName then .error .missingName
  else
    match t.formula with
    | .other tag => if tag = "" then .error .missingFormula else .error (.unknownFormula tag)
    | _ => .ok ()

end VolumePricing
