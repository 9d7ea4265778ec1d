import VolumePricing.Pricing.Columns
import VolumePricing.Pricing.Wire
import VolumePricing.Service.Basic
import VolumePricing.Service.Extract

/-!
# Tiers over the network

Anyone may list the tiers and have a cost priced; staff may change the tiers
and renew the stored prices of the products.
-/

namespace VolumePricing

/-- A cost and a quantity asked about. -/
structure CostQuery where
  cost : Float
  quantity : Int64

namespace Extract

def includeInactive (r : Http.Request) : Extracted Bool := do
  let fields ← query ["include_inactive"] r
  return fields.lookup "include_inactive" == some "true"

/-- A cost must be given; a quantity that cannot be read is one unit. -/
def costQuery (r : Http.Request) : Extracted CostQuery := do
  let fields ← query ["cost_price", "quantity"] r
  match (fields.lookup "cost_price").filter (· ≠ "") with
  | none => throw .costMissing
  | some text =>
    match Decimal.freeNumber? text with
    | none => throw .costUnreadable
    | some cost =>
      let quantity := (fields.lookup "quantity").bind fun q =>
        Decimal.wholeNumber? Int64.minValue.toInt Int64.maxValue.toInt q.toList
      return ⟨cost, .ofInt (quantity.getD 1)⟩

end Extract

/-- The new order of some tiers. -/
structure ReorderRequest where
  tiers : List TierOrder
  deriving DecidableEq, Repr

def ReorderRequest.fields : List Field := [.of (List TierOrder) "tiers"]

instance : FromJson ReorderRequest where
  decode j := do
    let r ← Record.read ReorderRequest.fields j
    return ⟨← r.get "tiers"⟩

/-- What became of the products when their prices were renewed. -/
structure Recalculation where
  totalProducts : Nat
  updated : Nat
  errors : Nat
  tiersApplied : Nat
  deriving DecidableEq, Repr

instance : ToJson Recalculation :=
  ⟨fun r => .object
    [("message", .string "recalculation finished"), ("total_products", encode r.totalProducts),
     ("updated", encode r.updated), ("errors", encode r.errors),
     ("tiers_applied", encode r.tiersApplied)]⟩

namespace Service

variable {σ : Type} (s : Service σ)

def listTiers (includeInactive : Bool) : ServiceAction σ (List PriceTier) :=
  call (s.store.listTiers includeInactive)

def calculate (q : CostQuery) : ServiceAction σ TierCalculation := do
  let tiers ← s.listTiers false
  return quoteTiers q.cost q.quantity tiers

def getTier (id : UInt32) : ServiceAction σ PriceTier := do
  require .unknownTier (← call (s.store.tier? id))

def createTier (tier : PriceTier) : ServiceAction σ PriceTier := do
  (tier.validate.mapError .tier : Extracted Unit)
  call (s.store.createTier tier)

def updateTier (id : UInt32) (update : TierUpdate) : ServiceAction σ PriceTier := do
  (update.validate.mapError .tier : Extracted Unit)
  call (s.store.updateTier id update)

def deleteTier (id : UInt32) : ServiceAction σ Unit := call (s.store.deleteTier id)

def reorderTiers (order : List TierOrder) : ServiceAction σ Unit := call (s.store.reorderTiers order)

/-- Whether the stored prices of a product could be renewed. -/
def repriceProduct (tiers : List PriceTier) (p : Product) : StoreAction σ Bool :=
  tryCatch
    (do
      s.store.updatePrices p.id (productPrices p.cost tiers)
      return true)
    fun _ => return false

/-- A product that cannot be renewed is counted and passed over. -/
def recalculate : ServiceAction σ Recalculation := do
  let tiers ← s.listTiers false
  if tiers.isEmpty then throw .noTiers
  let products ← call s.store.listProducts
  let renewed ← call (products.mapM (s.repriceProduct tiers))
  return {
    totalProducts := products.length
    updated := renewed.count true
    errors := renewed.count false
    tiersApplied := tiers.length }

end Service

end VolumePricing
