import VolumePricing.Proofs.Service.InMemory
import VolumePricing.Proofs.Service.Tokens

/-!
# What has to do with carts

Four endpoints on three routes work on the cart of a shopper. All others know
nothing of the carts and of the hub: they answer the same and change the same
whatever carts there are and whoever is tracked.
-/

namespace VolumePricing

open VolumePricing.Action
open Http (Request Response)

/-- The routes on which a stored cart is read or changed. -/
def Route.isOfCart : Route → Bool
  | .summary => true
  | .items => true
  | .item _ => true
  | _ => false

/-- The endpoints that read or change a stored cart. -/
def Endpoint.isOfCart : Endpoint → Bool
  | .summary => true
  | .addItem => true
  | .updateItem _ => true
  | .removeItem _ => true
  | _ => false

theorem Endpoint.access_of_isOfCart {endpoint : Endpoint} (h : endpoint.isOfCart = true) :
    endpoint.access = .shopper := by
  cases endpoint <;> first | rfl | cases h

/-- The endpoints of a cart are those on the routes of a cart. -/
theorem Route.isOfCart_of_endpoint? {route : Route} {method : String} {endpoint : Endpoint}
    (h : route.endpoint? method = some endpoint) : endpoint.isOfCart = route.isOfCart := by
  have hall : ∀ e ∈ route.endpoints, e.2.isOfCart = route.isOfCart := by
    cases route <;> simp [endpoints, isOfCart, Endpoint.isOfCart]
  exact hall _ (mem_endpoints_of_endpoint? h)

/-- The same tiers and products, beside other carts. -/
def Memory.withCarts (m : Memory) (carts : CartTable) : Memory := { m with carts }

/-- The same tiers and products, beside other carts and with another hub. -/
def Shop.withCarts (shop : Shop Memory) (carts : CartTable) (hub : Hub) : Shop Memory :=
  ⟨shop.store.withCarts carts, hub⟩

namespace Memory

variable {α : Type} (carts : CartTable)

theorem commutes_read {f : Memory → α} (hf : ∀ m, f (m.withCarts carts) = f m) :
    Commutes (·.withCarts carts) (read f) := by
  intro m
  rw [run_read, run_read, hf]
  rfl

theorem commutes_change {f : Memory → Checked (Except StoreError (α × Memory))}
    (hf : ∀ m, f (m.withCarts carts) =
      (f m).map fun made => made.map fun q => (q.1, q.2.withCarts carts)) :
    Commutes (·.withCarts carts) (change f) := by
  intro m
  rw [run_change, run_change, hf]
  rcases f m with o | e | ⟨a, m'⟩ <;> rfl

/-- A renewal of prices or a call on the tiers knows nothing of the carts. -/
theorem commutes_calls :
    (∀ t, Commutes (·.withCarts carts) (store.createTier t)) ∧
    (∀ id u, Commutes (·.withCarts carts) (store.updateTier id u)) ∧
    (∀ id, Commutes (·.withCarts carts) (store.deleteTier id)) ∧
    (∀ id prices, Commutes (·.withCarts carts) (store.updatePrices id prices)) := by
  refine ⟨fun t => commutes_change carts fun m => ?_, fun id u => commutes_change carts fun m => ?_,
    fun id => commutes_change carts fun m => ?_, fun id prices => commutes_change carts fun m => ?_⟩
  · change (m.tiers.create t).bind _ = ((m.tiers.create t).bind _).map _
    cases m.tiers.create t <;> rfl
  · change Except.ok ((m.tiers.update id u).map _) = (Except.ok ((m.tiers.update id u).map _)).map _
    cases m.tiers.update id u <;> rfl
  · change Except.ok ((m.tiers.delete id).map _) = (Except.ok ((m.tiers.delete id).map _)).map _
    cases m.tiers.delete id <;> rfl
  · change Except.ok ((m.products.updatePrices id prices).map _) =
      (Except.ok ((m.products.updatePrices id prices).map _)).map _
    cases m.products.updatePrices id prices <;> rfl

end Memory

namespace Service

variable {settings : HubSettings} {authority : Authority} {user : String} {r : Request}
  {moment : Moment} {endpoint : Endpoint}

/-- The action knows nothing of the carts and the hub. -/
def Cartless {α : Type} (x : ServiceAction Memory α) : Prop :=
  ∀ carts hub, Commutes (·.withCarts carts hub) x

section Cartless

variable {α β : Type}

/-- Such an action leaves the carts and the hub alone, and takes the same course beside others. -/
theorem Cartless.of_run {x : ServiceAction Memory α} (hx : Cartless x) {shop shop' : Shop Memory}
    {result : Except Refusal α} (h : x shop = .ok (result, shop')) :
    shop'.store.carts = shop.store.carts ∧ shop'.hub = shop.hub ∧
      ∀ carts hub, x (shop.withCarts carts hub) = .ok (result, shop'.withCarts carts hub) := by
  have hmoved : ∀ carts hub, x (shop.withCarts carts hub) =
      .ok (result, shop'.withCarts carts hub) := fun carts hub => by
    rw [hx carts hub shop, h]
    rfl
  -- Beside its own carts and its own hub the shop is what it is.
  have hown : x shop = .ok (result, shop'.withCarts shop.store.carts shop.hub) :=
    hmoved shop.store.carts shop.hub
  have hshop : shop' = shop'.withCarts shop.store.carts shop.hub := by
    rw [h] at hown
    exact congrArg Prod.snd (Except.ok.inj hown)
  exact ⟨congrArg (·.store.carts) hshop, congrArg (·.hub) hshop, hmoved⟩

theorem cartless_pure (a : α) : Cartless (pure a) := fun _ _ => commutes_pure a

theorem cartless_throw (e : Refusal) : Cartless (throw e : ServiceAction Memory α) :=
  fun _ _ => commutes_throw e

theorem cartless_except (x : Except Refusal α) : Cartless (liftM x) := fun _ _ => commutes_except x

theorem cartless_checked (x : Checked α) : Cartless (liftM x) := fun _ _ => commutes_checked x

theorem cartless_require (e : Refusal) (a : Option α) : Cartless (require e a) := by
  cases a with
  | none => exact cartless_throw e
  | some a => exact cartless_pure a

theorem Cartless.bind {x : ServiceAction Memory α} {f : α → ServiceAction Memory β}
    (hx : Cartless x) (hf : ∀ a, Cartless (f a)) : Cartless (x >>= f) :=
  fun carts hub => (hx carts hub).bind fun a => hf a carts hub

theorem cartless_call {action : StoreAction Memory α}
    (h : ∀ carts, Commutes (·.withCarts carts) action) : Cartless (call action) := by
  intro carts hub shop
  rw [run_call, run_call]
  change (action (shop.store.withCarts carts)).map _ = _
  rw [h]
  cases action shop.store <;> rfl

theorem cartless_read {f : Memory → α} (hf : ∀ m carts, f (m.withCarts carts) = f m) :
    Cartless (call (Memory.read f)) :=
  cartless_call fun carts => Memory.commutes_read carts fun m => hf m carts

theorem cartless_listTiers (includeInactive : Bool) :
    Cartless ((inMemory settings authority).listTiers includeInactive) :=
  cartless_read fun _ _ => rfl

theorem cartless_product (id : UInt32) : Cartless ((inMemory settings authority).product id) :=
  (cartless_read fun _ _ => rfl).bind fun _ => cartless_require _ _

theorem cartless_guestLines (place : Nat) (items : List ItemRequest) :
    Cartless ((inMemory settings authority).guestLines place items) := by
  induction items generalizing place with
  | nil => exact cartless_pure []
  | cons item items ih =>
    have priced : Cartless (do
        let product ← (inMemory settings authority).product item.productId
        let lines ← (inMemory settings authority).guestLines (place + 1) items
        return product.guestLine place item.quantity :: lines) :=
      (cartless_product _).bind fun _ => (ih _).bind fun _ => cartless_pure _
    unfold guestLines
    split
    · exact (cartless_throw _).bind fun _ => priced
    · exact priced

theorem cartless_guestPrice (cart : GuestCart) :
    Cartless ((inMemory settings authority).guestPrice cart) := by
  refine (cartless_guestLines 0 cart.items).bind fun lines => cartless_call fun carts => ?_
  have htiers : Commutes (·.withCarts carts) Memory.store.activeTiers :=
    (Memory.commutes_read carts fun _ => rfl).tryCatch fun _ => commutes_pure []
  exact htiers.bind fun tiers => commutes_checked _

theorem cartless_recalculate : Cartless (inMemory settings authority).recalculate := by
  have renewed : ∀ tiers, Cartless (do
      let products ← call (inMemory settings authority).store.listProducts
      let renewed ← call (products.mapM ((inMemory settings authority).repriceProduct tiers))
      return ({
        totalProducts := products.length
        updated := renewed.count true
        errors := renewed.count false
        tiersApplied := tiers.length } : Recalculation)) := by
    intro tiers
    refine (cartless_read fun _ _ => rfl).bind fun products =>
      Cartless.bind (cartless_call fun carts => ?_) fun _ => cartless_pure _
    obtain ⟨-, -, -, hprices⟩ := Memory.commutes_calls carts
    exact Commutes.mapM (fun p => ((hprices _ _).bind fun _ => commutes_pure true).tryCatch
      fun _ => commutes_pure false) products
  refine (cartless_listTiers false).bind fun tiers => ?_
  split
  · exact (cartless_throw _).bind fun _ => renewed tiers
  · exact renewed tiers

end Cartless

/-- Every endpoint but those of a cart knows nothing of the carts and the hub. -/
theorem cartless_run (h : endpoint.isOfCart = false) :
    Cartless ((inMemory settings authority).run endpoint user r moment) := by
  have answered : ∀ {α : Type} [ToJson α] {x : ServiceAction Memory α} (status : Nat), Cartless x →
      Cartless (do return reply (← x) status) := fun status hx => hx.bind fun _ => cartless_pure _
  cases endpoint with
  | health => exact cartless_pure _
  | guestLogin => exact (cartless_checked _).bind fun _ => cartless_pure _
  | listTiers =>
    exact (cartless_except _).bind fun _ => (cartless_listTiers _).bind fun _ => cartless_pure _
  | createTier =>
    refine (cartless_except _).bind fun t => answered 201 ((cartless_except _).bind fun _ => ?_)
    exact cartless_call fun carts => (Memory.commutes_calls carts).1 t
  | calculate =>
    exact (cartless_except _).bind fun _ => answered 200
      ((cartless_listTiers _).bind fun _ => cartless_pure _)
  | reorderTiers =>
    exact (cartless_except _).bind fun _ => Cartless.bind
      (cartless_call fun carts => Memory.commutes_change carts fun _ => rfl) fun _ => cartless_pure _
  | recalculate => exact answered 200 cartless_recalculate
  | getTier place =>
    exact (cartless_except _).bind fun _ => answered 200
      ((cartless_read fun _ _ => rfl).bind fun _ => cartless_require _ _)
  | updateTier place =>
    refine (cartless_except _).bind fun id => (cartless_except _).bind fun u =>
      answered 200 ((cartless_except _).bind fun _ => ?_)
    exact cartless_call fun carts => (Memory.commutes_calls carts).2.1 id u
  | deleteTier place =>
    exact (cartless_except _).bind fun id => Cartless.bind
      (cartless_call fun carts => (Memory.commutes_calls carts).2.2.1 id) fun _ => cartless_pure _
  | notifications => exact cartless_pure _
  | guestPrice => exact (cartless_except _).bind fun cart => answered 200 (cartless_guestPrice cart)
  | summary => cases h
  | addItem => cases h
  | updateItem place => cases h
  | removeItem place => cases h

end Service

end VolumePricing
