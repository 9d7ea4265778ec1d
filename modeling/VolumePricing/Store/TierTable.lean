import VolumePricing.Checked
import VolumePricing.FirstMatch
import VolumePricing.Store.Error
import VolumePricing.Tier.Update

/-!
# The table of tiers

Tiers are kept in the order in which they were created. Ids are given out in
increasing order and never again. At most one tier is to be the default: making
one the default takes the flag from all others.
-/

namespace VolumePricing

structure TierTable where
  tiers : List PriceTier
  nextId : UInt32
  deriving DecidableEq, Repr

namespace TierTable

/-- A table holding the given tiers, with ids free above theirs. -/
def ofTiers (tiers : List PriceTier) : Checked TierTable := do
  let nextId ← Checked.addUInt32 ((tiers.map (·.id)).max?.getD 0) 1
  return { tiers, nextId }

def list (s : TierTable) (includeInactive : Bool) : List PriceTier :=
  StableSort.sort (·.orderIndex) (s.tiers.filter fun t => includeInactive || t.active)

def get? (s : TierTable) (id : UInt32) : Option PriceTier := s.tiers.find? (·.id == id)

/-- Takes the default flag from every tier with another id. -/
def clearDefaults (keep : UInt32) (tiers : List PriceTier) : List PriceTier :=
  tiers.map fun t => if t.id = keep then t else { t with isDefault := false }

/-- The highest order index in use; zero in an empty table. -/
def lastIndex (s : TierTable) : Int32 := (s.tiers.map (·.orderIndex)).max?.getD 0

/-- The order index of a new tier: the one asked for, or the next free one. -/
def indexFor (s : TierTable) (t : PriceTier) : Checked Int32 :=
  if t.orderIndex = 0 then Checked.addInt32 s.lastIndex 1 else .ok t.orderIndex

def create (s : TierTable) (t : PriceTier) : Checked (PriceTier × TierTable) := do
  let nextId ← Checked.addUInt32 s.nextId 1
  let orderIndex ← s.indexFor t
  let created := { t with id := s.nextId, orderIndex }
  let others := if t.isDefault then clearDefaults s.nextId s.tiers else s.tiers
  return (created, { tiers := others ++ [created], nextId })

/-- The table once the id of a new tier is given away, as far as there is one. -/
def numbered (s : TierTable) : TierTable :=
  match Checked.addUInt32 s.nextId 1 with
  | .ok nextId => { s with nextId }
  | .error _ => s

/-- The update makes a tier the default that is not yet. -/
def movesDefault (u : TierUpdate) (t : PriceTier) : Bool := u.isDefault == some true && !t.isDefault

def update (s : TierTable) (id : UInt32) (u : TierUpdate) :
    Except StoreError (PriceTier × TierTable) :=
  match s.get? id with
  | none => .error (.tierMissing id)
  | some t =>
    let tiers := if movesDefault u t then clearDefaults id s.tiers else s.tiers
    .ok (u.applyTo t, { s with tiers := modifyFirst (·.id == id) u.applyTo tiers })

/-- The default tier cannot be deleted. -/
def delete (s : TierTable) (id : UInt32) : Except StoreError TierTable :=
  match s.get? id with
  | none => .error (.tierMissing id)
  | some t =>
    if t.isDefault then .error .defaultTierKept
    else .ok { s with tiers := s.tiers.eraseP (·.id == id) }

/-- Gives one tier a new order index; an unknown id is passed over. -/
def place (tiers : List PriceTier) (o : TierOrder) : List PriceTier :=
  modifyFirst (·.id == o.id) (fun t => { t with orderIndex := o.orderIndex }) tiers

def reorder (s : TierTable) (order : List TierOrder) : TierTable :=
  { s with tiers := order.foldl place s.tiers }

end TierTable

end VolumePricing
