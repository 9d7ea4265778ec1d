import VolumePricing.Proofs.Service.Handling
import VolumePricing.Proofs.Service.InMemory

/-!
# Lines that hold something

A line whose quantity is not positive is taken out before the call that made it
so is answered. So every line in every cart holds something, between two calls
as well as between two requests, whatever else fails or overflows.
-/

namespace VolumePricing

open VolumePricing.Action
open Http (Request Response)

namespace Memory

variable {m : Memory} {user : String}

/-- Every line in every cart holds something. -/
def Filled (m : Memory) : Prop := ∀ user, AllFilled (m.carts.linesOf user)

/-- A cart of filled lines may take the place of the one before it. -/
theorem Filled.then_put {cart : Cart} {carts : CartTable} (h : m.Filled)
    (hput : ∀ other, carts.get? other = if other = user then some cart else m.carts.get? other)
    (hcart : AllFilled cart.items) : Filled { m with carts } := by
  intro other
  rw [CartTable.linesOf_of_put (hput other)]
  split
  · exact hcart
  · exact h other

theorem filled_addItem (product : Product) (quantity : Int64) :
    Keeps Filled (store.addItem user product quantity) := by
  refine keeps_of_addItem fun m cart carts hm hadd => ?_
  obtain ⟨items, _, -, -, hitems, hput⟩ := CartTable.addItem_eq_ok hadd
  refine hm.then_put hput fun line hline => ?_
  rw [hitems] at hline
  simpa [Int64.lt_iff_toInt_lt] using List.of_mem_filter hline

theorem filled_setQuantity (productId : UInt32) (quantity : Int64) :
    Keeps Filled (store.setQuantity user productId quantity) := by
  refine keeps_of_setQuantity fun m cart carts hm hset => ?_
  obtain ⟨hany, -, hitems, hput⟩ := CartTable.setQuantity_eq_ok hset
  exact hm.then_put hput (hitems ▸ (CartTable.setIn_eq quantity (hm user) hany).1)

/-- Taking a line out is setting its quantity to zero. -/
theorem filled_removeItem (productId : UInt32) :
    Keeps Filled (store.removeItem user productId) := filled_setQuantity productId 0

end Memory

namespace Service

variable {settings : HubSettings} {authority : Authority} {o : Outage} {r : Request}
  {moment : Moment} {shop shop' : Shop Memory} {user : String}

theorem filled_write (c : CartChange) :
    Keeps (fun shop : Shop Memory => shop.store.Filled)
      ((during settings authority o).write user c) := by
  have guarded : ∀ {α : Type} {calls : List StoreCall} {x : StoreAction Memory α},
      Keeps Memory.Filled x →
      Keeps (fun shop : Shop Memory => shop.store.Filled) (call (o.guard calls x)) := fun hx =>
    keeps_call fun _ => o.keeps_guard _ hx
  exact write_of_calls during_careful (robust_keeps _)
    (fun p q => guarded (Memory.filled_addItem p q))
    (fun p q => guarded (Memory.filled_setQuantity p q))
    fun p => guarded (Memory.filled_removeItem p)

theorem filled_respond (hshop : shop.store.Filled) {response : Response}
    (h : (during settings authority o).respond r moment shop = .ok (response, shop')) :
    shop'.store.Filled := by
  let Each : CartTable → Prop := fun carts => ∀ user, AllFilled (carts.linesOf user)
  refine keeps_respond (P := fun shop => shop.store.Filled) (fun endpoint user _ => ?_) hshop h
  have hrefresh : Keeps (fun shop : Shop Memory => shop.store.Filled)
      ((during settings authority o).refresh user moment) :=
    keeps_refresh during_careful Memory.Filled user moment
  exact run_of_calls during_careful (robust_keeps _)
    (fun c _ => keeps_change (filled_write c) hrefresh)
    (fun _ => .of_kept (P := fun _ => Memory.Filled)
      (fun _ => (Memory.keptByTierCalls fun _ carts => Each carts).during o)
      fun _ _ id prices =>
        o.keeps_guard _ (Memory.keeps_updatePrices (fun _ carts => Each carts) id prices))
    (fun _ => hrefresh)

/-- The shop has come to this from a new one, by requests that were answered during any outages, by
changes of carts whose summaries are still to come or overflowed, and by whatever else requests do
that are under way or overflowed. Of that nothing is said but that it leaves the lines of every cart
alone. -/
inductive Arrived (settings : HubSettings) (authority : Authority) : Shop Memory → Prop
  | opened {tiers : List PriceTier} {products : List Product} {m : Memory}
      (hopen : Memory.holding tiers products = .ok m) :
      Arrived settings authority ⟨m, .new settings⟩
  | answered {shop shop' : Shop Memory} {o : Outage} {r : Request} {moment : Moment}
      {response : Response} (harrived : Arrived settings authority shop)
      (h : (during settings authority o).respond r moment shop = .ok (response, shop')) :
      Arrived settings authority shop'
  | written {shop shop' : Shop Memory} {o : Outage} {user : String} {c : CartChange}
      {result : Except Refusal Unit} (harrived : Arrived settings authority shop)
      (h : (during settings authority o).write user c shop = .ok (result, shop')) :
      Arrived settings authority shop'
  | aside {shop shop' : Shop Memory} (harrived : Arrived settings authority shop)
      (h : ∀ user, shop'.store.carts.linesOf user = shop.store.carts.linesOf user) :
      Arrived settings authority shop'

/-- Whatever becomes of a request, the shop has arrived where it leads. -/
theorem Arrived.handled (harrived : Arrived settings authority shop) (o : Outage) (r : Request)
    (moment : Moment) :
    Arrived settings authority ((during settings authority o).handle r moment shop).2 := by
  apply handle_leads
  · intro response shop' h
    exact harrived.answered h
  · intro e shop' _ h
    cases h with
    | untouched => exact harrived
    | written hasked hwrite => exact harrived.written hwrite
    | opened hasked => exact harrived.aside fun user => CartTable.linesOf_opened _ _ user
    | numbered hadmitted => exact harrived.aside fun user => rfl

theorem arrived_handleAll {tiers : List PriceTier} {products : List Product} {m₀ : Memory}
    (hopen : Memory.holding tiers products = .ok m₀) (o : Outage)
    (requests : List (Request × Moment)) :
    Arrived settings authority
      ((during settings authority o).handleAll requests ⟨m₀, .new settings⟩).2 :=
  handleAll_keeps (fun q _ _ harrived => harrived.handled o q.1 q.2) (.opened hopen)

theorem Arrived.filled (h : Arrived settings authority shop) : shop.store.Filled := by
  induction h with
  | opened hopen =>
    intro user line hline
    rw [(Memory.holding_eq_ok hopen).2.2] at hline
    cases hline
  | answered _ h ih => exact filled_respond ih h
  | written _ h ih => exact filled_write _ _ _ _ ih h
  | aside _ h ih =>
    intro user
    rw [h user]
    exact ih user

end Service

end VolumePricing
