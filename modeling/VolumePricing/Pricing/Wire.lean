import VolumePricing.Pricing.Resolve
import VolumePricing.Pricing.Columns
import VolumePricing.Tier.Wire

/-!
# Prices as JSON

The written form of resolutions, calculations, the next tier and the stored
price columns.
-/

namespace VolumePricing

instance : ToJson TierQuote :=
  ⟨fun q => .object [("tier", encode q.tier), ("price", encode q.price), ("applies", encode q.applies)]⟩

instance : ToJson PriceResolution :=
  ⟨fun r => .object
    [("price", encode r.price), ("tier", encode r.tier), ("all_tiers", encode r.allTiers)]⟩

instance : ToJson CalculatedTier :=
  ⟨fun c => .object (c.tier.members ++
    [("calculated_price", encode c.calculatedPrice), ("applies_now", encode c.appliesNow)])⟩

instance : ToJson TierCalculation :=
  ⟨fun c => .object
    [("cost_price", encode c.cost), ("quantity", encode c.quantity), ("tiers", encode c.tiers)]⟩

def NextTier.fields : List Field :=
  [.of String "display_name", .of Int64 "min_quantity", .of Int64 "quantity_to_unlock"]

def NextTier.ofRecord (r : Record) : Decoded NextTier := do
  return {
    displayName := ← r.get "display_name"
    minQuantity := ← r.get "min_quantity"
    quantityToUnlock := ← r.get "quantity_to_unlock" }

instance : FromJson NextTier := ⟨fun j => Record.read NextTier.fields j >>= NextTier.ofRecord⟩

instance : ToJson NextTier :=
  ⟨fun n => .object
    [("display_name", encode n.displayName), ("min_quantity", encode n.minQuantity),
     ("quantity_to_unlock", encode n.quantityToUnlock)]⟩

def ProductPrices.fields : List Field :=
  [.of Float "wholesale_price", .of Float "discount1_price", .of Float "discount2_price"]

def ProductPrices.ofRecord (r : Record) : Decoded ProductPrices := do
  return {
    wholesale := ← r.get "wholesale_price"
    discount1 := ← r.get "discount1_price"
    discount2 := ← r.get "discount2_price" }

instance : FromJson ProductPrices :=
  ⟨fun j => Record.read ProductPrices.fields j >>= ProductPrices.ofRecord⟩

instance : ToJson ProductPrices :=
  ⟨fun p => .object
    [("wholesale_price", encode p.wholesale), ("discount1_price", encode p.discount1),
     ("discount2_price", encode p.discount2)]⟩

instance : ToJson LegacyPrices :=
  ⟨fun p => .object
    [("retail", encode p.retail), ("wholesale", encode p.wholesale),
     ("discount1", encode p.discount1), ("discount2", encode p.discount2)]⟩

end VolumePricing
