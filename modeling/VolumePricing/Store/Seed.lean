import VolumePricing.Pricing.Columns
import VolumePricing.Store.Memory

/-!
# A new shop

The tiers and products of a shop that was just set up.
-/

namespace VolumePricing.Seed

def tiers : List PriceTier :=
  [{ id := 1
     name := "wholesale"
     displayName := "Wholesale"
     multiplier := 2.5
     orderIndex := 3
     description := "Base price for any quantity"
     isDefault := true
     colorCode := "#6b7280" },
   { id := 2
     name := "discount1"
     displayName := "Wholesale 6+"
     multiplier := 2.25
     minQuantity := 6
     orderIndex := 2
     description := "Six or more items in the cart"
     colorCode := "#2563eb" },
   { id := 3
     name := "discount2"
     displayName := "Wholesale 12+"
     multiplier := 1.75
     minQuantity := 12
     orderIndex := 1
     description := "Twelve or more items in the cart"
     colorCode := "#16a34a" }]

/-- A product with its stored prices filled from the tiers. -/
def product (id : UInt32) (name : String) (cost : Float) : Product :=
  ({ id, name, cost } : Product).setPrices (productPrices cost tiers)

def products : List Product :=
  [product 1 "Linen shirt" 4000.0, product 2 "Denim jacket" 12000.0, product 3 "Cotton tee" 1800.0]

end VolumePricing.Seed
