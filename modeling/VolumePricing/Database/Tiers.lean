import VolumePricing.Database.Column
import VolumePricing.Store.TierTable

/-!
# Tiers in a database

Every change of tiers that takes more than one statement is a transaction. A
tier that is updated is locked by its lookup, so that changes follow one
another. A deleted tier stays in its row, marked.
-/

namespace VolumePricing.Database

def tierColumns : String :=
  "id, name, display_name, formula_type, multiplier, percentage, flat_amount, " ++
  "min_quantity, order_index, active, description, is_default, show_in_public, color_code"

def tierOfRow? (r : Row) : Option PriceTier := do
  return {
    id := ← r.column? Datum.id? "id"
    name := ← r.column? Datum.text? "name"
    displayName := ← r.column? Datum.text? "display_name"
    formula := .ofTag (← r.column? Datum.text? "formula_type")
    multiplier := ← r.column? Datum.real? "multiplier"
    percentage := ← r.column? Datum.real? "percentage"
    flatAmount := ← r.column? Datum.real? "flat_amount"
    minQuantity := ← r.column? Datum.int64? "min_quantity"
    orderIndex := ← r.column? Datum.int32? "order_index"
    active := ← r.column? Datum.bool? "active"
    description := ← r.column? Datum.text? "description"
    isDefault := ← r.column? Datum.bool? "is_default"
    showInPublic := ← r.column? Datum.bool? "show_in_public"
    colorCode := ← r.column? Datum.text? "color_code" }

/-- The values of all columns but the id, in order. -/
def tierValues (t : PriceTier) : List Datum :=
  [.text t.name, .text t.displayName, .text t.formula.tag, .real t.multiplier, .real t.percentage,
   .real t.flatAmount, .ofInt64 t.minQuantity, .ofInt32 t.orderIndex, .bool t.active,
   .text t.description, .bool t.isDefault, .bool t.showInPublic, .text t.colorCode]

def selectTier : String :=
  "SELECT " ++ tierColumns ++ " FROM price_tiers WHERE id = $1 AND deleted_at IS NULL"

/-- The lookup of a tier that keeps others from changing it meanwhile. -/
def lockTier : String := selectTier ++ " FOR UPDATE"

def selectTiers : String :=
  "SELECT " ++ tierColumns ++ " FROM price_tiers WHERE deleted_at IS NULL AND (active OR $1) " ++
  "ORDER BY order_index ASC, id ASC"

def clearDefault : String := "UPDATE price_tiers SET is_default = FALSE WHERE is_default"

def clearOtherDefaults : String := "UPDATE price_tiers SET is_default = FALSE WHERE id <> $1"

def selectLastIndex : String :=
  "SELECT COALESCE(MAX(order_index), 0) FROM price_tiers WHERE deleted_at IS NULL"

def insertTier : String :=
  "INSERT INTO price_tiers (name, display_name, formula_type, multiplier, percentage, flat_amount, " ++
  "min_quantity, order_index, active, description, is_default, show_in_public, color_code) " ++
  "VALUES ($1, $2, $3, $4, $5, $6, $7, $8, $9, $10, $11, $12, $13) RETURNING " ++ tierColumns

def replaceTier : String :=
  "UPDATE price_tiers SET name = $1, display_name = $2, formula_type = $3, multiplier = $4, " ++
  "percentage = $5, flat_amount = $6, min_quantity = $7, order_index = $8, active = $9, " ++
  "description = $10, is_default = $11, show_in_public = $12, color_code = $13, updated_at = NOW() " ++
  "WHERE id = $14"

def markDeleted : String := "UPDATE price_tiers SET deleted_at = NOW() WHERE id = $1"

def placeTier : String := "UPDATE price_tiers SET order_index = $1, updated_at = NOW() WHERE id = $2"

def listTiers (includeInactive : Bool) : Talk (List PriceTier) :=
  fetchAll .pooled selectTiers [.bool includeInactive] tierOfRow?

/-- The tier that a lookup finds, if it finds one. -/
def lookupTier (line : Line) (sql : String) (id : UInt32) : Talk (Option PriceTier) :=
  fetch? line sql [.ofId id] tierOfRow?

def tier? (id : UInt32) : Talk (Option PriceTier) := lookupTier .pooled selectTier id

/-- The tier that a lookup has to find. -/
def requireTier (line : Line) (sql : String) (id : UInt32) : Talk PriceTier := do
  match ← lookupTier line sql id with
  | some t => return t
  | none => throw (.tierMissing id)

/-- The order index of a new tier: the one asked for, or the next free one. -/
def indexFor (t : PriceTier) : Talk Int32 := do
  if t.orderIndex = 0 then
    let last ← fetch .held selectLastIndex [] Row.firstWord?
    (Checked.addInt32 last 1 : Checked Int32)
  else return t.orderIndex

/-- Puts a tier in a row of its own. -/
def insertion (t : PriceTier) : Talk PriceTier := do
  let orderIndex ← indexFor t
  fetch .held insertTier (tierValues { t with orderIndex }) tierOfRow?

/-- A tier that is the default takes the flag from all rows before it gets its own. -/
def creation (t : PriceTier) : Talk PriceTier := do
  if t.isDefault then
    let _ ← execute .held clearDefault []
  insertion t

def createTier (t : PriceTier) : Talk PriceTier := transaction (creation t)

/-- Locks the row of a tier and replaces it. A tier that becomes the default takes the flag from
all other rows. -/
def revision (id : UInt32) (u : TierUpdate) : Talk PriceTier := do
  let t ← requireTier .held lockTier id
  if TierTable.movesDefault u t then
    let _ ← execute .held clearOtherDefaults [.ofId id]
  let updated := u.applyTo t
  let _ ← execute .held replaceTier (tierValues updated ++ [.ofId id])
  return updated

def updateTier (id : UInt32) (u : TierUpdate) : Talk PriceTier := transaction (revision id u)

def deleteTier (id : UInt32) : Talk Unit := do
  let t ← requireTier .pooled selectTier id
  if t.isDefault then throw .defaultTierKept
  let _ ← execute .pooled markDeleted [.ofId id]

/-- Places one row after another. -/
def placement (order : List TierOrder) : Talk Unit := do
  for o in order do
    let _ ← execute .held placeTier [.ofInt32 o.orderIndex, .ofId o.id]

def reorderTiers (order : List TierOrder) : Talk Unit := transaction (placement order)

end VolumePricing.Database
