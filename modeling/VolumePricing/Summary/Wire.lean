import VolumePricing.Pricing.Wire
import VolumePricing.Summary.Basic

/-!
# Summaries as JSON

A summary is written with all its fields; what the cart has not is null.
-/

namespace VolumePricing

namespace ItemSummary

def fields : List Field :=
  [.of UInt32 "cart_item_id", .of UInt32 "product_id", .of String "product_name",
   .of String "variant_name", .of Int64 "quantity", .of Float "cost_price",
   .of Float "unit_price", .of Float "subtotal", .of String "image_url"]

def ofRecord (r : Record) : Decoded ItemSummary := do
  return {
    cartItemId := ← r.get "cart_item_id"
    productId := ← r.get "product_id"
    productName := ← r.get "product_name"
    variantName := ← r.get "variant_name"
    quantity := ← r.get "quantity"
    cost := ← r.get "cost_price"
    unitPrice := ← r.get "unit_price"
    subtotal := ← r.get "subtotal"
    imageUrl := ← r.get "image_url" }

end ItemSummary

instance : FromJson ItemSummary :=
  ⟨fun j => Record.read ItemSummary.fields j >>= ItemSummary.ofRecord⟩

instance : ToJson ItemSummary :=
  ⟨fun i => .object
    [("cart_item_id", encode i.cartItemId), ("product_id", encode i.productId),
     ("product_name", encode i.productName), ("variant_name", encode i.variantName),
     ("quantity", encode i.quantity), ("cost_price", encode i.cost),
     ("unit_price", encode i.unitPrice), ("subtotal", encode i.subtotal),
     ("image_url", encode i.imageUrl)]⟩

namespace CartSummary

def fields : List Field :=
  [.of (Option UInt32) "cart_id" .fromObjects, .of Int64 "total_quantity", .of Float "subtotal",
   .of (List ItemSummary) "items", .of (Option PriceTier) "tier" .fromObjects,
   .of (Option NextTier) "next_tier" .fromObjects, .of (List PriceTier) "all_tiers"]

def ofRecord (r : Record) : Decoded CartSummary := do
  return {
    cartId := ← r.getOption "cart_id"
    totalQuantity := ← r.get "total_quantity"
    subtotal := ← r.get "subtotal"
    items := ← r.get "items"
    tier := ← r.getOption "tier"
    nextTier := ← r.getOption "next_tier"
    allTiers := ← r.get "all_tiers" }

end CartSummary

instance : FromJson CartSummary :=
  ⟨fun j => Record.read CartSummary.fields j >>= CartSummary.ofRecord⟩

instance : ToJson CartSummary :=
  ⟨fun s => .object
    [("cart_id", encode s.cartId), ("total_quantity", encode s.totalQuantity),
     ("subtotal", encode s.subtotal), ("items", encode s.items), ("tier", encode s.tier),
     ("next_tier", encode s.nextTier), ("all_tiers", encode s.allTiers)]⟩

end VolumePricing
