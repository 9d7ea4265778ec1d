import VolumePricing.Tier.Update

/-!
# Tiers as JSON

The written form of tiers, updates and orders. A tier is written with all its
fields and read with any of them missing: a missing formula is the empty tag,
which validation reports, and the rest take the values of a plain tier.
-/

namespace VolumePricing

namespace PriceTier

def fields : List Field :=
  [.of UInt32 "id" .always, .of String "name" .always, .of String "display_name" .always,
   .of Formula "formula_type" .always, .of Float "multiplier" .always,
   .of Float "percentage" .always, .of Float "flat_amount" .always,
   .of Int64 "min_quantity" .always, .of Int32 "order_index" .always, .of Bool "active" .always,
   .of String "description" .always, .of Bool "is_default" .always,
   .of Bool "show_in_public" .always, .of String "color_code" .always]

def ofRecord (r : Record) : Decoded PriceTier := do
  return {
    id := ← r.getD "id" 0
    name := ← r.getD "name" ""
    displayName := ← r.getD "display_name" ""
    formula := ← r.getD "formula_type" (.other "")
    multiplier := ← r.getD "multiplier" 1.0
    percentage := ← r.getD "percentage" 0.0
    flatAmount := ← r.getD "flat_amount" 0.0
    minQuantity := ← r.getD "min_quantity" 0
    orderIndex := ← r.getD "order_index" 0
    active := ← r.getD "active" true
    description := ← r.getD "description" ""
    isDefault := ← r.getD "is_default" false
    showInPublic := ← r.getD "show_in_public" true
    colorCode := ← r.getD "color_code" "" }

def members (t : PriceTier) : List (String × Json) :=
  [("id", encode t.id), ("name", encode t.name), ("display_name", encode t.displayName),
   ("formula_type", encode t.formula), ("multiplier", encode t.multiplier),
   ("percentage", encode t.percentage), ("flat_amount", encode t.flatAmount),
   ("min_quantity", encode t.minQuantity), ("order_index", encode t.orderIndex),
   ("active", encode t.active), ("description", encode t.description),
   ("is_default", encode t.isDefault), ("show_in_public", encode t.showInPublic),
   ("color_code", encode t.colorCode)]

end PriceTier

instance : FromJson PriceTier := ⟨fun j => Record.read PriceTier.fields j >>= PriceTier.ofRecord⟩
instance : ToJson PriceTier := ⟨fun t => .object t.members⟩

namespace TierUpdate

def fields : List Field :=
  [.of (Option String) "name" .fromObjects, .of (Option String) "display_name" .fromObjects,
   .of (Option Formula) "formula_type" .fromObjects, .of (Option Float) "multiplier" .fromObjects,
   .of (Option Float) "percentage" .fromObjects, .of (Option Float) "flat_amount" .fromObjects,
   .of (Option Int64) "min_quantity" .fromObjects, .of (Option Int32) "order_index" .fromObjects,
   .of (Option Bool) "active" .fromObjects, .of (Option String) "description" .fromObjects,
   .of (Option Bool) "is_default" .fromObjects, .of (Option Bool) "show_in_public" .fromObjects,
   .of (Option String) "color_code" .fromObjects]

def ofRecord (r : Record) : Decoded TierUpdate := do
  return {
    name := ← r.getOption "name"
    displayName := ← r.getOption "display_name"
    formula := ← r.getOption "formula_type"
    multiplier := ← r.getOption "multiplier"
    percentage := ← r.getOption "percentage"
    flatAmount := ← r.getOption "flat_amount"
    minQuantity := ← r.getOption "min_quantity"
    orderIndex := ← r.getOption "order_index"
    active := ← r.getOption "active"
    description := ← r.getOption "description"
    isDefault := ← r.getOption "is_default"
    showInPublic := ← r.getOption "show_in_public"
    colorCode := ← r.getOption "color_code" }

def members (u : TierUpdate) : List (String × Json) :=
  [("name", encode u.name), ("display_name", encode u.displayName),
   ("formula_type", encode u.formula), ("multiplier", encode u.multiplier),
   ("percentage", encode u.percentage), ("flat_amount", encode u.flatAmount),
   ("min_quantity", encode u.minQuantity), ("order_index", encode u.orderIndex),
   ("active", encode u.active), ("description", encode u.description),
   ("is_default", encode u.isDefault), ("show_in_public", encode u.showInPublic),
   ("color_code", encode u.colorCode)]

end TierUpdate

instance : FromJson TierUpdate := ⟨fun j => Record.read TierUpdate.fields j >>= TierUpdate.ofRecord⟩
instance : ToJson TierUpdate := ⟨fun u => .object u.members⟩

def TierOrder.fields : List Field := [.of UInt32 "id", .of Int32 "order_index"]

def TierOrder.ofRecord (r : Record) : Decoded TierOrder := do
  return { id := ← r.get "id", orderIndex := ← r.get "order_index" }

instance : FromJson TierOrder := ⟨fun j => Record.read TierOrder.fields j >>= TierOrder.ofRecord⟩

end VolumePricing
