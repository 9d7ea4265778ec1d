import VolumePricing.Tier.Basic

/-!
# Stored price columns

A product stores three prices. A tier named after a column fills it; a tier of
another name fills a column by its order index. What no tier fills keeps a
fixed multiple of the cost, as does the retail price list that knows no tiers.
-/

namespace VolumePricing

structure ProductPrices where
  wholesale : Float
  discount1 : Float
  discount2 : Float
  deriving DecidableEq, Repr

inductive PriceColumn
  | wholesale
  | discount1
  | discount2
  deriving DecidableEq, Repr

/-- The multiple of the cost that a column holds without a tier. -/
def PriceColumn.multiplier : PriceColumn → Float
  | .wholesale => 2.5
  | .discount1 => 2.25
  | .discount2 => 1.75

namespace ProductPrices

def legacy (cost : Float) : ProductPrices :=
  ⟨cost * PriceColumn.wholesale.multiplier, cost * PriceColumn.discount1.multiplier,
   cost * PriceColumn.discount2.multiplier⟩

def get (p : ProductPrices) : PriceColumn → Float
  | .wholesale => p.wholesale
  | .discount1 => p.discount1
  | .discount2 => p.discount2

def set (p : ProductPrices) (c : PriceColumn) (price : Float) : ProductPrices :=
  match c with
  | .wholesale => { p with wholesale := price }
  | .discount1 => { p with discount1 := price }
  | .discount2 => { p with discount2 := price }

@[simp] theorem get_set_self (p : ProductPrices) (c : PriceColumn) (price : Float) :
    (p.set c price).get c = price := by
  cases c <;> rfl

theorem get_set_of_ne {c d : PriceColumn} (h : d ≠ c) (p : ProductPrices) (price : Float) :
    (p.set c price).get d = p.get d := by
  cases c <;> cases d <;> first | rfl | exact absurd rfl h

end ProductPrices

/-- The column named like the tier. -/
def PriceColumn.ofName? (name : String) : Option PriceColumn :=
  if name = "wholesale" then some .wholesale
  else if name = "discount1" then some .discount1
  else if name = "discount2" then some .discount2
  else none

/-- The column at a place of the ranking. -/
def PriceColumn.ofIndex? (index : Int32) : Option PriceColumn :=
  if index = 3 then some .wholesale
  else if index = 2 then some .discount1
  else if index = 1 then some .discount2
  else none

def PriceTier.column? (t : PriceTier) : Option PriceColumn :=
  (PriceColumn.ofName? t.name).or (PriceColumn.ofIndex? t.orderIndex)

/-- A later tier overwrites the column of an earlier one. -/
def productPrices (cost : Float) (tiers : List PriceTier) : ProductPrices :=
  (tiers.filter (·.active)).foldl
    (fun prices t => t.column?.elim prices fun c => prices.set c (t.price cost))
    (ProductPrices.legacy cost)

/-- Prices of the time when tiers could not be configured. -/
structure LegacyPrices where
  retail : Float
  wholesale : Float
  discount1 : Float
  discount2 : Float

def legacyPrices (cost : Float) : LegacyPrices :=
  let prices := ProductPrices.legacy cost
  ⟨cost, prices.wholesale, prices.discount1, prices.discount2⟩

end VolumePricing
