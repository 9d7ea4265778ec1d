import VolumePricing.Service.Basic
import VolumePricing.Service.Extract
import VolumePricing.Text.Uuid

/-!
# Carts over the network

A shopper reads and changes the one cart that the token names. A cart that is
kept elsewhere can be priced without being stored.
-/

namespace VolumePricing

/-- Units of a product. -/
structure ItemRequest where
  productId : UInt32
  quantity : Int64
  deriving DecidableEq, Repr

def ItemRequest.fields : List Field := [.of UInt32 "product_id", .of Int64 "quantity"]

instance : FromJson ItemRequest where
  decode j := do
    let r ← Record.read ItemRequest.fields j
    return { productId := ← r.get "product_id", quantity := ← r.get "quantity" }

structure QuantityRequest where
  quantity : Int64
  deriving DecidableEq, Repr

def QuantityRequest.fields : List Field := [.of Int64 "quantity"]

instance : FromJson QuantityRequest where
  decode j := do
    let r ← Record.read QuantityRequest.fields j
    return { quantity := ← r.get "quantity" }

structure GuestCart where
  items : List ItemRequest
  deriving DecidableEq, Repr

def GuestCart.fields : List Field := [.of (List ItemRequest) "items"]

instance : FromJson GuestCart where
  decode j := do
    let r ← Record.read GuestCart.fields j
    return { items := ← r.get "items" }

/-- A line that is not stored, numbered from one. -/
def Product.guestLine (p : Product) (place : Nat) (quantity : Int64) : CartLine :=
  { cartItemId := .ofNat (place + 1)
    productId := p.id
    productName := p.name
    quantity := quantity
    cost := p.cost
    wholesale := p.wholesale
    imageUrl := p.imageUrl }

namespace Service

variable {σ : Type} (s : Service σ)

/-- A token for a shopper whom nobody knows. -/
def guestLogin (moment : Moment) : ServiceAction σ String :=
  let guest := "guest-" ++ (Uuid.ofRandom moment.random).text
  (s.authority.issue guest Role.guest moment.now : Checked String)

def addItem (user : String) (item : ItemRequest) (moment : Moment) : ServiceAction σ CartSummary := do
  if item.quantity ≤ 0 then throw .quantityNotPositive
  let product ← s.product item.productId
  let _ ← call (s.store.addItem user product item.quantity)
  s.refresh user moment

def updateItem (user : String) (productId : UInt32) (quantity : Int64) (moment : Moment) :
    ServiceAction σ CartSummary := do
  let _ ← call (s.store.setQuantity user productId quantity)
  s.refresh user moment

def removeItem (user : String) (productId : UInt32) (moment : Moment) :
    ServiceAction σ CartSummary := do
  let _ ← call (s.store.removeItem user productId)
  s.refresh user moment

/-- The lines of a cart kept elsewhere, from the given place on. -/
def guestLines (place : Nat) : List ItemRequest → ServiceAction σ (List CartLine)
  | [] => return []
  | item :: items => do
    if item.quantity ≤ 0 then throw .quantityNotPositive
    let product ← s.product item.productId
    let lines ← guestLines (place + 1) items
    return product.guestLine place item.quantity :: lines

def guestPrice (cart : GuestCart) : ServiceAction σ CartSummary := do
  let lines ← s.guestLines 0 cart.items
  call (Shop.price s.store s.settings lines)

end Service

end VolumePricing
