import VolumePricing.Cart
import VolumePricing.Checked
import VolumePricing.FirstMatch
import VolumePricing.Product
import VolumePricing.Store.Error

/-!
# The table of carts

Every shopper has at most one cart, and a cart at most one line for a product.
A line whose quantity is not positive is taken out at once. Carts and lines are
numbered in the order in which they were opened.
-/

namespace VolumePricing

structure CartTable where
  carts : List Cart
  /-- The number given to the last cart. -/
  lastCartId : UInt32
  /-- The number given to the last line. -/
  lastItemId : UInt32
  deriving DecidableEq, Repr

namespace CartTable

def empty : CartTable := ⟨[], 0, 0⟩

def get? (s : CartTable) (user : String) : Option Cart := s.carts.find? (·.userId == user)

/-- Puts a cart in the place of the shopper's cart, or at the end. -/
def put (s : CartTable) (cart : Cart) : CartTable :=
  if (s.get? cart.userId).isSome then
    { s with carts := modifyFirst (·.userId == cart.userId) (fun _ => cart) s.carts }
  else { s with carts := s.carts ++ [cart] }

/-- The shopper's cart, and the table with the number of a new one used up if it is new. -/
def openCart (s : CartTable) (user : String) : Checked (Cart × CartTable) :=
  match s.get? user with
  | some cart => .ok (cart, s)
  | none => do
    let id ← Checked.addUInt32 s.lastCartId 1
    return ({ id, userId := user, items := [] }, { s with lastCartId := id })

/-- The table once the shopper has a cart, as far as there is a number for it. -/
def opened (s : CartTable) (user : String) : CartTable :=
  match s.openCart user with
  | .ok (cart, s) => s.put cart
  | .error _ => s

/-- A line that holds units of a product as it is now. -/
def newLine (id : UInt32) (product : Product) (quantity : Int64) : CartLine :=
  { cartItemId := id
    productId := product.id
    productName := product.name
    quantity := quantity
    cost := product.cost
    wholesale := product.wholesale
    imageUrl := product.imageUrl }

/-- Raises the quantity of the product's line, or adds a line at the end. -/
def addTo (lastItemId : UInt32) (items : List CartLine) (product : Product) (quantity : Int64) :
    Checked (List CartLine × UInt32) :=
  match items.find? (·.productId == product.id) with
  | some line => do
    let total ← Checked.addInt64 line.quantity quantity
    return (modifyFirst (·.productId == product.id) (fun l => { l with quantity := total }) items,
      lastItemId)
  | none => do
    let id ← Checked.addUInt32 lastItemId 1
    return (items ++ [newLine id product quantity], id)

def addItem (s : CartTable) (user : String) (product : Product) (quantity : Int64) :
    Checked (Cart × CartTable) := do
  let (cart, s) ← s.openCart user
  let (items, lastItemId) ← addTo s.lastItemId cart.items product quantity
  let cart := { cart with items := items.filter (0 < ·.quantity) }
  return (cart, ({ s with lastItemId }).put cart)

/-- The lines with the quantity of one product set, or its line taken out. -/
def setIn (items : List CartLine) (productId : UInt32) (quantity : Int64) : List CartLine :=
  if quantity ≤ 0 then items.eraseP (·.productId == productId)
  else modifyFirst (·.productId == productId) (fun l => { l with quantity }) items

def setQuantity (s : CartTable) (user : String) (productId : UInt32) (quantity : Int64) :
    Except StoreError (Cart × CartTable) :=
  match s.get? user with
  | none => .error (.cartMissing user)
  | some cart =>
    if cart.items.any (·.productId == productId) then
      let cart := { cart with items := setIn cart.items productId quantity }
      .ok (cart, s.put cart)
    else .error (.lineMissing productId)

def removeItem (s : CartTable) (user : String) (productId : UInt32) :
    Except StoreError (Cart × CartTable) :=
  s.setQuantity user productId 0

end CartTable

end VolumePricing
