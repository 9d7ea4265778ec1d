import VolumePricing.Proofs.Cart.Table
import VolumePricing.Proofs.Service.Frames
import VolumePricing.Proofs.Service.Refused

/-!
# Server errors

The only requests answered with a server error are those whose storage failed.
Then nothing was done, or the cart was changed as asked and only the summary of
the new cart is missing from the answer.
-/

namespace VolumePricing

open VolumePricing.Action
open Http (Request Response)

namespace Refusal

theorem status_eq_500 {refusal : Refusal} (h : refusal.status = 500) :
    ∃ failure, refusal = .store (.storage failure) := by
  cases refusal with
  | store e =>
    cases e with
    | storage failure => exact ⟨failure, rfl⟩
    | _ => cases h
  | body fault => cases fault <;> cases h
  | _ => cases h

end Refusal

namespace Outage

variable {σ α : Type} (o : Outage)

/-- A call that only reads a store in memory fails when the outage hits it, and at no other time. -/
theorem guard_read_eq_error {calls : List StoreCall} {f : Memory → α} {m m' : Memory}
    {e : StoreError} (h : o.guard calls (Memory.read f) m = .ok (.error e, m')) :
    o.hits calls = true := by
  rw [run_guard] at h
  split at h
  · assumption
  · cases h

end Outage

namespace Memory

variable {user : String} {m₀ : Memory}

/-- Nothing but the cart of one shopper differs. -/
structure SameBut (user : String) (m m' : Memory) : Prop where
  tiers : m'.tiers = m.tiers
  products : m'.products = m.products
  carts : ∀ other, other ≠ user → m'.carts.get? other = m.carts.get? other

theorem SameBut.refl (m : Memory) : m.SameBut user m := ⟨rfl, rfl, fun _ _ => rfl⟩

/-- Another change of the same cart is no other difference. -/
theorem SameBut.then_put {m : Memory} (h : m₀.SameBut user m) {cart : Cart} {carts : CartTable}
    (hput : ∀ other, carts.get? other = if other = user then some cart else m.carts.get? other) :
    m₀.SameBut user { m with carts } where
  tiers := h.tiers
  products := h.products
  carts other hne := by rw [hput, if_neg hne, h.carts other hne]

/-- In memory the carts are a table of their own, and adding keeps what the new table keeps. -/
theorem keeps_of_addItem {P : Memory → Prop} {product : Product} {quantity : Int64}
    (hP : ∀ m cart carts, P m → m.carts.addItem user product quantity = .ok (cart, carts) →
      P { m with carts }) : Keeps P (store.addItem user product quantity) := by
  refine keeps_change fun m cart m' hm h => ?_
  rcases hadd : m.carts.addItem user product quantity with o | ⟨cart', carts⟩ <;>
    rw [hadd] at h <;> cases h
  exact hP m cart carts hm hadd

theorem keeps_of_setQuantity {P : Memory → Prop} {productId : UInt32} {quantity : Int64}
    (hP : ∀ m cart carts, P m → m.carts.setQuantity user productId quantity = .ok (cart, carts) →
      P { m with carts }) : Keeps P (store.setQuantity user productId quantity) := by
  refine keeps_change fun m cart m' hm h => ?_
  rcases hset : m.carts.setQuantity user productId quantity with e | ⟨cart', carts⟩ <;>
    rw [hset] at h <;> cases h
  exact hP m cart carts hm hset

theorem keeps_addItem (product : Product) (quantity : Int64) :
    Keeps (m₀.SameBut user) (store.addItem user product quantity) := by
  refine keeps_of_addItem fun m cart carts hm hadd => ?_
  obtain ⟨_, _, -, -, -, hput⟩ := CartTable.addItem_eq_ok hadd
  exact hm.then_put hput

theorem keeps_setQuantity (productId : UInt32) (quantity : Int64) :
    Keeps (m₀.SameBut user) (store.setQuantity user productId quantity) := by
  refine keeps_of_setQuantity fun m cart carts hm hset => ?_
  obtain ⟨-, -, -, hput⟩ := CartTable.setQuantity_eq_ok hset
  exact hm.then_put hput

/-- Taking a line out is setting its quantity to zero. -/
theorem keeps_removeItem (productId : UInt32) :
    Keeps (m₀.SameBut user) (store.removeItem user productId) := keeps_setQuantity productId 0

end Memory

namespace Service

variable {settings : HubSettings} {authority : Authority} {o : Outage} {r : Request}
  {moment : Moment} {shop shop' : Shop Memory} {user : String} {c : CartChange}

/-- A service over a store in memory, some of whose calls fail. -/
def during (settings : HubSettings) (authority : Authority) (o : Outage) : Service Memory :=
  ⟨Memory.store.during o, settings, authority⟩

/-- The request had its change of the cart made, and after that the cart cannot be read. -/
structure Stranded (settings : HubSettings) (authority : Authority) (o : Outage) (r : Request)
    (moment : Moment) (user : String) (c : CartChange) (shop shop' : Shop Memory) : Prop where
  asked : (during settings authority o).cartChange? r moment = some (user, c)
  made : (during settings authority o).write user c shop = .ok (.ok (), shop')
  unread : StoreCall.getCart ∈ o.calls

theorem during_careful : (during settings authority o).store.Careful :=
  Memory.store_careful.during o

/-- A change of the cart concerns the cart of its shopper and nothing else. -/
theorem keeps_write (hub : Hub) (m₀ : Memory) :
    Keeps (fun shop : Shop Memory => shop.hub = hub ∧ m₀.SameBut user shop.store)
      ((during settings authority o).write user c) := by
  have guarded : ∀ {α : Type} {calls : List StoreCall} {x : StoreAction Memory α},
      Keeps (m₀.SameBut user) x →
      Keeps (fun shop : Shop Memory => shop.hub = hub ∧ m₀.SameBut user shop.store)
        (call (o.guard calls x)) := fun hx =>
    keeps_call (P := fun h m => h = hub ∧ m₀.SameBut user m) fun h m r m' hm hr =>
      ⟨hm.1, o.keeps_guard _ hx m r m' hm.2 hr⟩
  exact write_of_calls during_careful (robust_keeps _)
    (fun p q => guarded (Memory.keeps_addItem p q))
    (fun p q => guarded (Memory.keeps_setQuantity p q))
    fun p => guarded (Memory.keeps_removeItem p)

/-- However a change of the cart ends, nothing but that cart differs. -/
theorem write_sameBut {result : Except Refusal Unit}
    (h : (during settings authority o).write user c shop = .ok (result, shop')) :
    shop'.hub = shop.hub ∧ shop.store.SameBut user shop'.store :=
  keeps_write shop.hub shop.store shop result shop' ⟨rfl, .refl _⟩ h

/-- A change of a cart leaves what is said of the tiers and the products. -/
theorem keeps_change_tables (Q : TierTable → ProductShelf → Prop) (c : CartChange) :
    Keeps (fun shop : Shop Memory => Q shop.store.tiers shop.store.products)
      ((during settings authority o).change user moment c) := by
  refine keeps_change (fun shop result shop' hshop h => ?_) (keeps_refresh during_careful
    (fun m => Q m.tiers m.products) user moment)
  obtain ⟨-, hsame⟩ := write_sameBut h
  rw [hsame.tiers, hsame.products]
  exact hshop

theorem Stranded.same_but (h : Stranded settings authority o r moment user c shop shop') :
    shop'.hub = shop.hub ∧ shop.store.SameBut user shop'.store :=
  write_sameBut h.made

/-- Without the new cart there is no summary, and the answer is a server error. -/
theorem Stranded.respond (h : Stranded settings authority o r moment user c shop shop') :
    ∃ response, (during settings authority o).respond r moment shop = .ok (response, shop') ∧
      response.status = 500 := by
  have hcart : (during settings authority o).store.cart? user shop'.store =
      .ok (.error o.failure, shop'.store) := by
    have hhits : o.hits [.getCart] = true := by simpa [Outage.hits] using h.unread
    exact (o.run_guard _ _ _).trans (if_pos hhits)
  have hchange : (during settings authority o).change user moment c shop =
      .ok (.error (.store o.failure), shop') := by
    simp only [change, run_bind, h.made, refresh_of_unread hcart]
  exact ⟨finished r (.error (.store o.failure)), by rw [respond_cartChange h.asked, hchange]; rfl,
    finished_status r _⟩

/-- A server error means that nothing was done, unless it answers a change of the cart that was
made and whose cart could not be read again. Then nothing but that cart has changed. -/
theorem respond_server_error {response : Response}
    (h : (during settings authority o).respond r moment shop = .ok (response, shop')) :
    (response.status = 500 →
      shop' = shop ∨ ∃ user c, Stranded settings authority o r moment user c shop shop') ∧
    ∀ user c, Stranded settings authority o r moment user c shop shop' →
      response.status = 500 ∧ shop'.hub = shop.hub ∧ shop.store.SameBut user shop'.store := by
  constructor
  · intro hstatus
    cases hadmitted : (during settings authority o).admitted? r moment with
    | none =>
      obtain ⟨response', -, hanswer⟩ := respond_dismissed hadmitted
      rw [hanswer] at h
      cases h
      exact Or.inl rfl
    | some admitted =>
      obtain ⟨endpoint, user⟩ := admitted
      rw [respond_admitted hadmitted] at h
      rcases hrun : (during settings authority o).run endpoint user r moment shop with
        e | ⟨refusal | answer, shop₁⟩ <;> rw [hrun] at h <;> cases h
      · rw [finished_status] at hstatus
        obtain ⟨failure, rfl⟩ := Refusal.status_eq_500 hstatus
        rcases run_refused during_careful hrun with hsame | ⟨c, e, hasked, hmade, hcart, -⟩
        · exact Or.inl hsame
        · right
          have hhits := o.guard_read_eq_error hcart
          exact ⟨user, c, ⟨by simp [cartChange?, hadmitted, hasked, Except.toOption], hmade,
            by simpa [Outage.hits] using hhits⟩⟩
      · rw [finished_status] at hstatus
        rcases answers_run shop answer _ hrun with hok | hok <;> rw [settled, hok] at hstatus <;>
          cases hstatus
  · intro user c hstranded
    obtain ⟨response', hresponse, hstatus⟩ := hstranded.respond
    rw [hresponse] at h
    cases h
    exact ⟨hstatus, hstranded.same_but⟩

end Service

namespace Seed

/-- Carts can be changed, but not read. -/
def unreadCarts : Outage := ⟨[.getCart], "offline"⟩

theorem stranded_order : ∃ shop', Service.Stranded {} .byName unreadCarts (order "2") ⟨0, 0⟩ "ana"
    (.add ⟨1, 2⟩) ⟨opened, .new {}⟩ shop' ∧ (shop'.store.carts.get? "ana").isSome = true :=
  ⟨_, ⟨cartChange?_order body_order_two, rfl, List.mem_singleton_self _⟩, rfl⟩

end Seed

theorem Service.respond_server_error_order :
    ∃ response shop', (during {} .byName Seed.unreadCarts).respond (Seed.order "2") ⟨0, 0⟩
        ⟨Seed.opened, .new {}⟩ = .ok (response, shop') ∧
      response.status = 500 ∧ Seed.opened.SameBut "ana" shop'.store := by
  obtain ⟨shop', hstranded, -⟩ := Seed.stranded_order
  obtain ⟨response, hresponse, -⟩ := hstranded.respond
  obtain ⟨hstatus, -, hsame⟩ := (respond_server_error hresponse).2 _ _ hstranded
  exact ⟨response, shop', hresponse, hstatus, hsame⟩

/-- The order of a new shopper is answered with a server error and has opened a cart. -/
theorem Service.order_made_despite_server_error :
    ∃ m₀ response shop', Memory.holding Seed.tiers Seed.products = .ok m₀ ∧
      (during {} .byName Seed.unreadCarts).respond (Seed.order "2") ⟨0, 0⟩ ⟨m₀, .new {}⟩ =
        .ok (response, shop') ∧
      response.status = 500 ∧ shop'.store.carts.get? "ana" ≠ m₀.carts.get? "ana" := by
  obtain ⟨shop', hstranded, hcart⟩ := Seed.stranded_order
  obtain ⟨response, hresponse, hstatus⟩ := hstranded.respond
  refine ⟨Seed.opened, response, shop', Seed.holding_opened, hresponse, hstatus, fun hsame => ?_⟩
  rw [hsame] at hcart
  cases hcart

end VolumePricing
