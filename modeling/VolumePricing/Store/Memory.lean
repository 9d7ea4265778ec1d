import VolumePricing.Store.Basic
import VolumePricing.Store.CartTable
import VolumePricing.Store.ProductShelf
import VolumePricing.Store.TierTable

/-!
# A store in memory

Three tables that change together only where a call says so. Every call is a
pure function of the tables.
-/

namespace VolumePricing

structure Memory where
  tiers : TierTable
  products : ProductShelf
  carts : CartTable
  deriving DecidableEq, Repr

namespace Memory

/-- A store holding the given tiers and products and no cart. -/
def holding (tiers : List PriceTier) (products : List Product) : Checked Memory := do
  let tiers ← TierTable.ofTiers tiers
  return { tiers, products := .ofProducts products, carts := .empty }

/-- A call that only reads. -/
def read {α : Type} (f : Memory → α) : StoreAction Memory α := return f (← get)

/-- A call that changes the tables unless it is refused. -/
def change {α : Type} (f : Memory → Checked (Except StoreError (α × Memory))) :
    StoreAction Memory α := do
  match ← (f (← get) : Checked _) with
  | .error e => throw e
  | .ok (a, m) =>
    set m
    return a

def store : Store Memory where
  listTiers includeInactive := read (·.tiers.list includeInactive)
  tier? id := read (·.tiers.get? id)
  createTier tier := change fun m => do
    let (created, tiers) ← m.tiers.create tier
    return .ok (created, { m with tiers })
  updateTier id update := change fun m =>
    .ok ((m.tiers.update id update).map fun (tier, tiers) => (tier, { m with tiers }))
  deleteTier id := change fun m =>
    .ok ((m.tiers.delete id).map fun tiers => ((), { m with tiers }))
  reorderTiers order := change fun m =>
    .ok (.ok ((), { m with tiers := m.tiers.reorder order }))
  listProducts := read (·.products.products)
  product? id := read (·.products.get? id)
  updatePrices id prices := change fun m =>
    .ok ((m.products.updatePrices id prices).map fun products => ((), { m with products }))
  cart? user := read (·.carts.get? user)
  addItem user product quantity := change fun m => do
    let (cart, carts) ← m.carts.addItem user product quantity
    return .ok (cart, { m with carts })
  setQuantity user productId quantity := change fun m =>
    .ok ((m.carts.setQuantity user productId quantity).map fun (cart, carts) => (cart, { m with carts }))
  removeItem user productId := change fun m =>
    .ok ((m.carts.removeItem user productId).map fun (cart, carts) => (cart, { m with carts }))

end Memory

end VolumePricing
