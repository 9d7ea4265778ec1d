import VolumePricing.Pricing.Wire

/-!
# Products

A product of the catalogue as far as pricing is concerned: its cost and the
three stored prices.
-/

namespace VolumePricing

structure Product where
  id : UInt32
  name : String
  cost : Float
  wholesale : Float := 0.0
  discount1 : Float := 0.0
  discount2 : Float := 0.0
  imageUrl : String := ""
  deriving DecidableEq, Repr, Inhabited

namespace Product

def setPrices (p : Product) (prices : ProductPrices) : Product :=
  { p with wholesale := prices.wholesale, discount1 := prices.discount1, discount2 := prices.discount2 }

@[simp] theorem id_setPrices (p : Product) (prices : ProductPrices) :
    (p.setPrices prices).id = p.id := rfl

@[simp] theorem cost_setPrices (p : Product) (prices : ProductPrices) :
    (p.setPrices prices).cost = p.cost := rfl

def fields : List Field :=
  [.of UInt32 "id", .of String "name", .of Float "cost_price", .of Float "wholesale_price" .always,
   .of Float "discount1_price" .always, .of Float "discount2_price" .always,
   .of String "image_url" .always]

def ofRecord (r : Record) : Decoded Product := do
  return {
    id := ← r.get "id"
    name := ← r.get "name"
    cost := ← r.get "cost_price"
    wholesale := ← r.getD "wholesale_price" 0.0
    discount1 := ← r.getD "discount1_price" 0.0
    discount2 := ← r.getD "discount2_price" 0.0
    imageUrl := ← r.getD "image_url" "" }

end Product

instance : FromJson Product := ⟨fun j => Record.read Product.fields j >>= Product.ofRecord⟩

instance : ToJson Product :=
  ⟨fun p => .object
    [("id", encode p.id), ("name", encode p.name), ("cost_price", encode p.cost),
     ("wholesale_price", encode p.wholesale), ("discount1_price", encode p.discount1),
     ("discount2_price", encode p.discount2), ("image_url", encode p.imageUrl)]⟩

end VolumePricing
