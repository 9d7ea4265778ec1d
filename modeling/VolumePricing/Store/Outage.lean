import VolumePricing.Store.Basic

/-!
# Outages

An outage is a set of calls that fail before they touch anything. A store under
an outage answers all other calls as before.
-/

namespace VolumePricing

inductive StoreCall
  | listTiers
  | getTier
  | createTier
  | updateTier
  | deleteTier
  | reorderTiers
  | listProducts
  | getProduct
  | updatePrices
  | updatePricesOf (id : UInt32)
  | getCart
  | addItem
  | setQuantity
  | removeItem
  deriving DecidableEq, Repr

structure Outage where
  calls : List StoreCall
  reason : String
  deriving DecidableEq, Repr

namespace Outage

def none : Outage := ⟨[], ""⟩

/-- Fails when one of the calls is hit by the outage. -/
def guard {σ α : Type} (o : Outage) (calls : List StoreCall) (action : StoreAction σ α) :
    StoreAction σ α :=
  if calls.any o.calls.contains then throw (.storage (.reported o.reason)) else action

end Outage

/-- The store as it answers during an outage. -/
def Store.during {σ : Type} (s : Store σ) (o : Outage) : Store σ where
  listTiers all := o.guard [.listTiers] (s.listTiers all)
  tier? id := o.guard [.getTier] (s.tier? id)
  createTier tier := o.guard [.createTier] (s.createTier tier)
  updateTier id update := o.guard [.updateTier] (s.updateTier id update)
  deleteTier id := o.guard [.deleteTier] (s.deleteTier id)
  reorderTiers order := o.guard [.reorderTiers] (s.reorderTiers order)
  listProducts := o.guard [.listProducts] s.listProducts
  product? id := o.guard [.getProduct] (s.product? id)
  updatePrices id prices := o.guard [.updatePrices, .updatePricesOf id] (s.updatePrices id prices)
  cart? user := o.guard [.getCart] (s.cart? user)
  addItem user product quantity := o.guard [.addItem] (s.addItem user product quantity)
  setQuantity user product quantity := o.guard [.setQuantity] (s.setQuantity user product quantity)
  removeItem user product := o.guard [.removeItem] (s.removeItem user product)

end VolumePricing
