import VolumePricing.Database.Column

/-!
# Carts in a database

The lines of a cart are joined with the products they hold, so that a change of
a cost is seen at once. A cart is read again after every change.
-/

namespace VolumePricing.Database

def lineOfRow? (r : Row) : Option CartLine := do
  return {
    cartItemId := ← r.column? Datum.id? "id"
    productId := ← r.column? Datum.id? "product_id"
    productName := ← r.column? Datum.text? "product_name"
    variantName := ← r.column? Datum.text? "variant_name"
    quantity := ← r.column? Datum.int64? "quantity"
    cost := ← r.column? Datum.real? "cost_price"
    wholesale := ← r.column? Datum.real? "wholesale_price"
    imageUrl := ← r.column? Datum.text? "image_url" }

def selectCart : String := "SELECT id FROM carts WHERE user_id = $1"

def selectLines : String :=
  "SELECT ci.id, ci.product_id, p.name AS product_name, ci.variant_name, ci.quantity, " ++
  "p.cost_price, p.wholesale_price, p.image_url " ++
  "FROM cart_items ci JOIN products p ON p.id = ci.product_id " ++
  "WHERE ci.cart_id = $1 ORDER BY ci.id"

def openCart : String :=
  "INSERT INTO carts (user_id) VALUES ($1) " ++
  "ON CONFLICT (user_id) DO UPDATE SET user_id = EXCLUDED.user_id RETURNING id"

def addUnits : String :=
  "INSERT INTO cart_items (cart_id, product_id, quantity) VALUES ($1, $2, $3) " ++
  "ON CONFLICT (cart_id, product_id) DO UPDATE SET quantity = cart_items.quantity + EXCLUDED.quantity"

def dropEmptyLines : String := "DELETE FROM cart_items WHERE cart_id = $1 AND quantity <= 0"

def dropLine : String := "DELETE FROM cart_items WHERE cart_id = $1 AND product_id = $2"

def setUnits : String := "UPDATE cart_items SET quantity = $3 WHERE cart_id = $1 AND product_id = $2"

/-- The number of the shopper's cart. -/
def cartId? (user : String) : Talk (Option Int32) :=
  fetch? .pooled selectCart [.text user] Row.firstWord?

def loadCart (id : Int32) (user : String) : Talk Cart := do
  let items ← fetchAll .pooled selectLines [.ofInt32 id] lineOfRow?
  return { id := id.toUInt32, userId := user, items }

def cart? (user : String) : Talk (Option Cart) := do
  match ← cartId? user with
  | none => return none
  | some id => return some (← loadCart id user)

def addItem (user : String) (product : Product) (quantity : Int64) : Talk Cart := do
  let id ← fetch .pooled openCart [.text user] Row.firstWord?
  let _ ← execute .pooled addUnits [.ofInt32 id, .ofId product.id, .ofInt64 quantity]
  let _ ← execute .pooled dropEmptyLines [.ofInt32 id]
  loadCart id user

def setQuantity (user : String) (productId : UInt32) (quantity : Int64) : Talk Cart := do
  match ← cartId? user with
  | none => throw (.cartMissing user)
  | some id =>
    let changed ←
      if quantity ≤ 0 then execute .pooled dropLine [.ofInt32 id, .ofId productId]
      else execute .pooled setUnits [.ofInt32 id, .ofId productId, .ofInt64 quantity]
    if changed = 0 then throw (.lineMissing productId)
    loadCart id user

def removeItem (user : String) (productId : UInt32) : Talk Cart := setQuantity user productId 0

end VolumePricing.Database
