import VolumePricing.Proofs.Cart.Units
import VolumePricing.Proofs.Service.CartChanges
import VolumePricing.Proofs.Summary.Pricing

/-!
# Carts over a store in memory

Over a store in memory every step of a cart request comes to a computation on
the tables. A change of the cart is accepted or refused by what the tables
hold, and a refresh is a matter of the units in the cart.
-/

namespace VolumePricing

open VolumePricing.Action Checked
open Http (Request Response)

namespace CartChange

/-- What the change asks for is there. -/
def Accepted (m : Memory) (user : String) : CartChange → Prop
  | .add item => 0 < item.quantity.toInt ∧ (m.products.get? item.productId).isSome = true
  | .set productId _ => (m.carts.linesOf user).any (·.productId == productId) = true
  | .remove productId => (m.carts.linesOf user).any (·.productId == productId) = true

/-- The units of the cart when the change is made. -/
def unitsAfter (m : Memory) (user : String) : CartChange → ℤ
  | .add item => unitsOf (m.carts.linesOf user) + item.quantity.toInt
  | .set productId quantity => unitsOf (m.carts.linesOf user) -
      unitsOfProduct (m.carts.linesOf user) productId + max 0 quantity.toInt
  | .remove productId => unitsOf (m.carts.linesOf user) -
      unitsOfProduct (m.carts.linesOf user) productId

/-- The change needs a number for a new cart or a new line when the last one is given away. -/
def NeedsNumber (m : Memory) (user : String) : CartChange → Prop
  | .add item =>
    m.carts.get? user = none ∧ m.carts.lastCartId.toNat + 1 = UInt32.size ∨
      (m.carts.linesOf user).find? (·.productId == item.productId) = none ∧
        m.carts.lastItemId.toNat + 1 = UInt32.size
  | .set _ _ => False
  | .remove _ => False

end CartChange

namespace Service

variable {settings : HubSettings} {authority : Authority} {user : String} {moment : Moment}
  {shop shop' : Shop Memory} {c : CartChange}

/-- A service over a store in memory. -/
def inMemory (settings : HubSettings) (authority : Authority) : Service Memory :=
  ⟨Memory.store, settings, authority⟩

theorem run_product (id : UInt32) (shop : Shop Memory) :
    (inMemory settings authority).product id shop =
      .ok (match shop.store.products.get? id with
        | some p => .ok p
        | none => .error (.store (.productMissing id)), shop) := by
  have hcall : call ((inMemory settings authority).store.product? id) shop =
      .ok (.ok (shop.store.products.get? id), shop) := by
    rw [run_call]
    rfl
  rw [product, run_bind, hcall]
  cases shop.store.products.get? id <;> simp [require]

theorem run_write_add (item : ItemRequest) (shop : Shop Memory) :
    (inMemory settings authority).write user (.add item) shop =
      if item.quantity ≤ 0 then .ok (.error .quantityNotPositive, shop)
      else
        match shop.store.products.get? item.productId with
        | none => .ok (.error (.store (.productMissing item.productId)), shop)
        | some p => (shop.store.carts.addItem user p item.quantity).map fun q =>
          (.ok (), { shop with store := { shop.store with carts := q.2 } }) := by
  by_cases hq : item.quantity ≤ 0
  · simp [write, hq]
  · simp only [write, if_neg hq, run_bind, run_product]
    cases hp : shop.store.products.get? item.productId with
    | none => rfl
    | some p =>
      simp only [run_call, inMemory, Memory.store, Memory.run_change]
      rcases shop.store.carts.addItem user p item.quantity with o | ⟨cart, carts⟩ <;> rfl

theorem run_write_set (productId : UInt32) (quantity : Int64) (shop : Shop Memory) :
    (inMemory settings authority).write user (.set productId quantity) shop =
      match shop.store.carts.setQuantity user productId quantity with
      | .error e => .ok (.error (.store e), shop)
      | .ok q => .ok (.ok (), { shop with store := { shop.store with carts := q.2 } }) := by
  simp only [write, run_bind, run_call, inMemory, Memory.store, Memory.run_change]
  rcases shop.store.carts.setQuantity user productId quantity with e | ⟨cart, carts⟩ <;> rfl

/-- Taking a line out is setting its quantity to zero. -/
theorem write_remove (productId : UInt32) :
    (inMemory settings authority).write user (.remove productId) =
      (inMemory settings authority).write user (.set productId 0) := rfl

/-- A change is refused and leaves the shop alone, or puts the cart that it makes in the table. -/
theorem write_cases {result : Except Refusal Unit}
    (h : (inMemory settings authority).write user c shop = .ok (result, shop')) :
    shop' = shop ∨ ∃ cart carts, shop' = { shop with store := { shop.store with carts } } ∧
      ((∃ p quantity, shop.store.products.get? p.id = some p ∧
          shop.store.carts.addItem user p quantity = .ok (cart, carts)) ∨
        ∃ productId quantity,
          shop.store.carts.setQuantity user productId quantity = .ok (cart, carts)) := by
  have set : ∀ productId quantity,
      (inMemory settings authority).write user (.set productId quantity) shop = .ok (result, shop') →
      shop' = shop ∨ ∃ cart carts, shop' = { shop with store := { shop.store with carts } } ∧
        shop.store.carts.setQuantity user productId quantity = .ok (cart, carts) := by
    intro productId quantity h
    rw [run_write_set] at h
    rcases hset : shop.store.carts.setQuantity user productId quantity with e | ⟨cart, carts⟩ <;>
      rw [hset] at h <;> cases h
    · exact Or.inl rfl
    · exact Or.inr ⟨cart, carts, rfl, rfl⟩
  cases c with
  | add item =>
    rw [run_write_add] at h
    split at h
    · cases h
      exact Or.inl rfl
    · cases hp : shop.store.products.get? item.productId with
      | none =>
        rw [hp] at h
        cases h
        exact Or.inl rfl
      | some p =>
        have hid : p.id = item.productId := by simpa using List.find?_some hp
        rw [hp] at h
        rcases hadd : shop.store.carts.addItem user p item.quantity with o | ⟨cart, carts⟩ <;>
          simp only [hadd, Except.map] at h <;> cases h
        exact Or.inr ⟨cart, carts, rfl, Or.inl ⟨p, item.quantity, hid ▸ hp, hadd⟩⟩
  | set productId quantity =>
    refine (set productId quantity h).imp_right ?_
    rintro ⟨cart, carts, hshop, hset⟩
    exact ⟨cart, carts, hshop, Or.inr ⟨productId, quantity, hset⟩⟩
  | remove productId =>
    rw [write_remove] at h
    refine (set productId 0 h).imp_right ?_
    rintro ⟨cart, carts, hshop, hset⟩
    exact ⟨cart, carts, hshop, Or.inr ⟨productId, 0, hset⟩⟩

theorem run_summarize (shop : Shop Memory) :
    Shop.summarize Memory.store settings user shop.store =
      (summarizeCart settings.fallback (shop.store.carts.get? user)
        (shop.store.tiers.list false)).map fun summary => (.ok summary, shop.store) := by
  rw [Shop.summarize, run_bind]
  change (do
    let tiers ← Memory.store.activeTiers
    (summarizeCart settings.fallback (shop.store.carts.get? user) tiers : Checked CartSummary) :
      StoreAction Memory CartSummary) shop.store = _
  rw [run_bind, Memory.run_activeTiers]
  exact run_checked _ _

/-- A refresh hands the summary of the cart to the hub. -/
theorem run_refresh (user : String) (moment : Moment) (shop : Shop Memory) :
    (inMemory settings authority).refresh user moment shop =
      (summarizeCart settings.fallback (shop.store.carts.get? user)
        (shop.store.tiers.list false)).map fun summary =>
          (.ok summary, { shop with hub := shop.hub.observe settings user summary moment }) := by
  rw [refresh, Service.shop, run_adapt, Shop.run_refresh]
  change ((Shop.summarize Memory.store settings user shop.store).map _).map _ = _
  rw [run_summarize]
  cases summarizeCart settings.fallback (shop.store.carts.get? user) (shop.store.tiers.list false) <;>
    rfl

/-- A refresh overflows when the units of the cart have no word. -/
theorem overflows_refresh (h : AllFilled (shop.store.carts.linesOf user)) :
    Overflows ((inMemory settings authority).refresh user moment shop) ↔
      Int64.maxValue.toInt < unitsOf (shop.store.carts.linesOf user) := by
  rw [run_refresh, overflows_map]
  cases hget : shop.store.carts.get? user with
  | none =>
    have hlines : shop.store.carts.linesOf user = [] := by simp [CartTable.linesOf, hget]
    simp [summarizeCart, hlines, unitsOf, Int64.toInt_maxValue]
  | some cart =>
    have hlines : shop.store.carts.linesOf user = cart.items := by simp [CartTable.linesOf, hget]
    rw [hlines] at h ⊢
    rw [overflows_summarizeCart (by
      rintro c hc line hline
      cases hc
      exact (h line hline).le)]
    simp [unitsOf]

end Service

end VolumePricing
