import VolumePricing.Cart
import VolumePricing.Checked
import VolumePricing.Product
import VolumePricing.Store.Error
import VolumePricing.Tier.Update

/-!
# Stores

A store keeps the tiers, the products and one cart per shopper. Whatever it is
made of, it offers the same calls. A call may fail and still have changed the
state of the store; an overflow ends everything.
-/

namespace VolumePricing

abbrev StoreAction (σ α : Type) := ExceptT StoreError (StateT σ (Except Overflow)) α

structure Store (σ : Type) where
  /-- The tiers by order index; those not active only when they are asked for. -/
  listTiers (includeInactive : Bool) : StoreAction σ (List PriceTier)
  tier? (id : UInt32) : StoreAction σ (Option PriceTier)
  /-- Stores a new tier under a fresh id. A tier without an order index is put last. -/
  createTier (tier : PriceTier) : StoreAction σ PriceTier
  updateTier (id : UInt32) (update : TierUpdate) : StoreAction σ PriceTier
  deleteTier (id : UInt32) : StoreAction σ Unit
  reorderTiers (order : List TierOrder) : StoreAction σ Unit
  listProducts : StoreAction σ (List Product)
  product? (id : UInt32) : StoreAction σ (Option Product)
  updatePrices (id : UInt32) (prices : ProductPrices) : StoreAction σ Unit
  cart? (user : String) : StoreAction σ (Option Cart)
  /-- Adds units of a product to the shopper's cart, which is opened when there is none. -/
  addItem (user : String) (product : Product) (quantity : Int64) : StoreAction σ Cart
  /-- Sets the quantity of a line; zero or less takes the line out. -/
  setQuantity (user : String) (productId : UInt32) (quantity : Int64) : StoreAction σ Cart
  removeItem (user : String) (productId : UInt32) : StoreAction σ Cart

namespace Store

/-- The active tiers as far as they can be known: none when the store cannot list them,
so that pricing goes on without tiers. -/
def activeTiers {σ : Type} (s : Store σ) : StoreAction σ (List PriceTier) :=
  tryCatch (s.listTiers false) fun _ => pure []

end Store

end VolumePricing
