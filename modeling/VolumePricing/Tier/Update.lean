import VolumePricing.Tier.Basic

/-!
# Changing a tier

An update carries the fields to replace. A field that is absent keeps its
stored value, and so do an empty text, an unknown formula and an order index
that is not positive. The id is no field of an update.
-/

namespace VolumePricing

structure TierUpdate where
  name : Option String := none
  displayName : Option String := none
  formula : Option Formula := none
  multiplier : Option Float := none
  percentage : Option Float := none
  flatAmount : Option Float := none
  minQuantity : Option Int64 := none
  orderIndex : Option Int32 := none
  active : Option Bool := none
  description : Option String := none
  isDefault : Option Bool := none
  showInPublic : Option Bool := none
  colorCode : Option String := none
  deriving DecidableEq, Repr, Inhabited

namespace TierUpdate

/-- Only a formula that is named and unknown is refused. -/
def validate (u : TierUpdate) : Except TierFault Unit :=
  match u.formula with
  | some (.other tag) => if tag = "" then .ok () else .error (.unknownFormula tag)
  | _ => .ok ()

def textOr (new : Option String) (old : String) : String :=
  (new.filter (· ≠ "")).getD old

def applyTo (u : TierUpdate) (t : PriceTier) : PriceTier :=
  { id := t.id
    name := textOr u.name t.name
    displayName := textOr u.displayName t.displayName
    formula := (u.formula.filter (·.isKnown)).getD t.formula
    multiplier := u.multiplier.getD t.multiplier
    percentage := u.percentage.getD t.percentage
    flatAmount := u.flatAmount.getD t.flatAmount
    minQuantity := u.minQuantity.getD t.minQuantity
    orderIndex := (u.orderIndex.filter (0 < ·)).getD t.orderIndex
    active := u.active.getD t.active
    description := textOr u.description t.description
    isDefault := u.isDefault.getD t.isDefault
    showInPublic := u.showInPublic.getD t.showInPublic
    colorCode := textOr u.colorCode t.colorCode }

@[simp] theorem id_applyTo (u : TierUpdate) (t : PriceTier) : (u.applyTo t).id = t.id := rfl

@[simp] theorem applyTo_empty (t : PriceTier) : ({} : TierUpdate).applyTo t = t := rfl

end TierUpdate

/-- A new place in the ranking for the tier of that id. -/
structure TierOrder where
  id : UInt32
  orderIndex : Int32
  deriving DecidableEq, Repr, Inhabited

end VolumePricing
