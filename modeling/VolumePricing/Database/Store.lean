import VolumePricing.Database.Carts
import VolumePricing.Database.Column
import VolumePricing.Database.Conversation
import VolumePricing.Database.Tiers

/-!
# A store in a database

Every call of the store is a talk held in a conversation with the database.
-/

/-!
### Products in a database

Products are read as they are and only their stored prices are changed.
-/

namespace VolumePricing.Database

def productColumns : String :=
  "id, name, cost_price, wholesale_price, discount1_price, discount2_price, image_url"

def productOfRow? (r : Row) : Option Product := do
  return {
    id := ← r.column? Datum.id? "id"
    name := ← r.column? Datum.text? "name"
    cost := ← r.column? Datum.real? "cost_price"
    wholesale := ← r.column? Datum.real? "wholesale_price"
    discount1 := ← r.column? Datum.real? "discount1_price"
    discount2 := ← r.column? Datum.real? "discount2_price"
    imageUrl := ← r.column? Datum.text? "image_url" }

def selectProducts : String :=
  "SELECT " ++ productColumns ++ " FROM products WHERE deleted_at IS NULL ORDER BY id"

def selectProduct : String :=
  "SELECT " ++ productColumns ++ " FROM products WHERE id = $1 AND deleted_at IS NULL"

def replacePrices : String :=
  "UPDATE products SET wholesale_price = $1, discount1_price = $2, discount2_price = $3 " ++
  "WHERE id = $4 AND deleted_at IS NULL"

def listProducts : Talk (List Product) := fetchAll .pooled selectProducts [] productOfRow?

def product? (id : UInt32) : Talk (Option Product) :=
  fetch? .pooled selectProduct [.ofId id] productOfRow?

def updatePrices (id : UInt32) (prices : ProductPrices) : Talk Unit := do
  let changed ← execute .pooled replacePrices
    [.real prices.wholesale, .real prices.discount1, .real prices.discount2, .ofId id]
  if changed = 0 then throw (.productMissing id)


/-! ### The whole store -/

def store : Store Conversation where
  listTiers includeInactive := (listTiers includeInactive).run
  tier? id := (tier? id).run
  createTier tier := (createTier tier).run
  updateTier id update := (updateTier id update).run
  deleteTier id := (deleteTier id).run
  reorderTiers order := (reorderTiers order).run
  listProducts := listProducts.run
  product? id := (product? id).run
  updatePrices id prices := (updatePrices id prices).run
  cart? user := (cart? user).run
  addItem user product quantity := (addItem user product quantity).run
  setQuantity user productId quantity := (setQuantity user productId quantity).run
  removeItem user productId := (removeItem user productId).run

end VolumePricing.Database
