import VolumePricing.Json.Decode

/-!
# Price formulas

How a tier derives a sale price from a cost. A tag that names no known formula
is kept as it was written, so that records of other tools survive; pricing
leaves the cost untouched under it.
-/

namespace VolumePricing

inductive Formula
  | multiplier
  | percentageMarkup
  | flatAmount
  | other (tag : String)
  deriving DecidableEq, Repr, Inhabited

namespace Formula

def tag : Formula → String
  | .multiplier => "multiplier"
  | .percentageMarkup => "percentage_markup"
  | .flatAmount => "flat_amount"
  | .other tag => tag

def ofTag (tag : String) : Formula :=
  if tag = "multiplier" then .multiplier
  else if tag = "percentage_markup" then .percentageMarkup
  else if tag = "flat_amount" then .flatAmount
  else .other tag

def isKnown : Formula → Bool
  | .other _ => false
  | _ => true

@[simp] theorem tag_ofTag (t : String) : (ofTag t).tag = t := by
  unfold ofTag
  repeat' split
  all_goals simp_all [tag]

theorem ofTag_tag_of_isKnown {f : Formula} (h : f.isKnown = true) : ofTag f.tag = f := by
  cases f with
  | other => cases h
  | _ => rfl

end Formula

instance : FromJson Formula where
  decode j := (decode j).map Formula.ofTag

instance : ToJson Formula := ⟨fun f => .string f.tag⟩

end VolumePricing
