import VolumePricing.Json.Decode

/-!
# Carts

A cart belongs to one shopper and holds lines, each with a product, a quantity
and the prices of the product at the time it was put in.
-/

namespace VolumePricing

structure CartLine where
  cartItemId : UInt32
  productId : UInt32
  productName : String
  variantName : String := ""
  quantity : Int64
  cost : Float
  /-- The stored price, used when no tier prices the cart. -/
  wholesale : Float := 0.0
  imageUrl : String := ""
  deriving DecidableEq, Repr, Inhabited

structure Cart where
  id : UInt32
  userId : String
  items : List CartLine
  deriving DecidableEq, Repr, Inhabited

namespace CartLine

def fields : List Field :=
  [.of UInt32 "cart_item_id", .of UInt32 "product_id", .of String "product_name",
   .of String "variant_name" .always, .of Int64 "quantity", .of Float "cost_price",
   .of Float "wholesale_price" .always, .of String "image_url" .always]

def ofRecord (r : Record) : Decoded CartLine := do
  return {
    cartItemId := ← r.get "cart_item_id"
    productId := ← r.get "product_id"
    productName := ← r.get "product_name"
    variantName := ← r.getD "variant_name" ""
    quantity := ← r.get "quantity"
    cost := ← r.get "cost_price"
    wholesale := ← r.getD "wholesale_price" 0.0
    imageUrl := ← r.getD "image_url" "" }

end CartLine

instance : FromJson CartLine := ⟨fun j => Record.read CartLine.fields j >>= CartLine.ofRecord⟩

instance : ToJson CartLine :=
  ⟨fun l => .object
    [("cart_item_id", encode l.cartItemId), ("product_id", encode l.productId),
     ("product_name", encode l.productName), ("variant_name", encode l.variantName),
     ("quantity", encode l.quantity), ("cost_price", encode l.cost),
     ("wholesale_price", encode l.wholesale), ("image_url", encode l.imageUrl)]⟩

namespace Cart

def fields : List Field :=
  [.of UInt32 "id", .of String "user_id", .of (List CartLine) "items"]

def ofRecord (r : Record) : Decoded Cart := do
  return { id := ← r.get "id", userId := ← r.get "user_id", items := ← r.get "items" }

end Cart

instance : FromJson Cart := ⟨fun j => Record.read Cart.fields j >>= Cart.ofRecord⟩

instance : ToJson Cart :=
  ⟨fun c => .object [("id", encode c.id), ("user_id", encode c.userId), ("items", encode c.items)]⟩

end VolumePricing
