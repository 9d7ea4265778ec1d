import VolumePricing.Proofs.Hub.Refresh
import VolumePricing.Service.Handle

/-!
# Calls of the store by the service

A call of the store touches nothing else of the shop. So what is known of the
calls, that they only read, or are refused in time, holds in the shop too, and
a refresh is refused without a trace.
-/

namespace VolumePricing

open VolumePricing.Action

variable {σ α : Type}

namespace Shop

variable {action : StoreAction σ α}

theorem reads_call (h : Reads action) : Reads (call action) := by
  intro shop r shop' hr
  rw [run_call] at hr
  rcases ha : action shop.store with o | ⟨a, st⟩ <;> rw [ha] at hr <;> cases hr
  rw [h _ _ _ ha]

theorem atomic_call (h : Atomic action) : Atomic (call action) := by
  intro shop e shop' hr
  rw [run_call] at hr
  rcases ha : action shop.store with o | ⟨a, st⟩ <;> rw [ha] at hr <;> cases hr
  rw [h _ _ _ ha]

theorem unrefused_call (h : Unrefused action) : Unrefused (call action) := by
  intro shop e shop' hr
  rw [run_call] at hr
  rcases ha : action shop.store with o | ⟨a, st⟩ <;> rw [ha] at hr <;> cases hr
  exact h _ _ _ ha

theorem keeps_call {P : Hub → σ → Prop} (h : ∀ hub, Keeps (P hub) action) :
    Keeps (fun shop : Shop σ => P shop.hub shop.store) (call action) := by
  intro shop r shop' hs hr
  rw [run_call] at hr
  rcases ha : action shop.store with o | ⟨a, st⟩ <;> rw [ha] at hr <;> cases hr
  exact h shop.hub _ _ _ hs ha

variable {store : Store σ} (hs : store.Careful) (settings : HubSettings) (user : String)
include hs

theorem reads_summarize : Reads (summarize store settings user) :=
  (hs.cart? user).bind fun _ => hs.reads_activeTiers.bind fun _ => reads_checked _

theorem reads_price (lines : List CartLine) : Reads (price store settings lines) :=
  hs.reads_activeTiers.bind fun _ => reads_checked _

/-- A refresh never changes the store. -/
theorem refresh_store {moment : Moment} {shop shop' : Shop σ}
    {r : Except StoreError CartSummary}
    (h : refresh store settings user moment shop = .ok (r, shop')) :
    shop'.store = shop.store := by
  rw [run_refresh] at h
  rcases hsum : summarize store settings user shop.store with o | ⟨a, st⟩ <;>
    rw [hsum] at h <;> cases h
  exact reads_summarize hs settings user _ _ _ hsum

theorem atomic_refresh (moment : Moment) : Atomic (refresh store settings user moment) := by
  intro shop e shop' h
  have hstore := refresh_store hs settings user h
  rw [run_refresh] at h
  rcases hsum : summarize store settings user shop.store with o | ⟨a, st⟩ <;>
    rw [hsum] at h <;> cases h
  cases hstore
  rfl

end Shop

namespace Service

variable {action : StoreAction σ α}

theorem reads_call (h : Reads action) : Reads (call action) := (Shop.reads_call h).adapt _

theorem atomic_call (h : Atomic action) : Atomic (call action) := (Shop.atomic_call h).adapt _

theorem unrefused_call (h : Unrefused action) : Unrefused (call action) :=
  (Shop.unrefused_call h).adapt _

theorem keeps_call {P : Hub → σ → Prop} (h : ∀ hub, Keeps (P hub) action) :
    Keeps (fun shop : Shop σ => P shop.hub shop.store) (call action) :=
  (Shop.keeps_call h).adapt _

theorem run_call (shop : Shop σ) :
    call action shop =
      (action shop.store).map fun p => (p.1.mapError .store, { shop with store := p.2 }) := by
  rw [call, Service.shop, run_adapt, Shop.run_call]
  cases action shop.store <;> rfl

/-- A cart that cannot be read refuses the refresh with its error. -/
theorem refresh_of_unread {s : Service σ} {user : String} {moment : Moment} {shop : Shop σ}
    {e : StoreError} {st : σ} (h : s.store.cart? user shop.store = .ok (.error e, st)) :
    s.refresh user moment shop = .ok (.error (.store e), { shop with store := st }) := by
  have hsum : Shop.summarize s.store s.settings user shop.store = .ok (.error e, st) := by
    rw [Shop.summarize, run_bind, h]
  rw [refresh, Service.shop, run_adapt, Shop.run_refresh, hsum]
  rfl

/-- A refresh leaves the hub as it is, or the hub takes in the new summary. -/
theorem refresh_hub {s : Service σ} {user : String} {moment : Moment} {shop shop' : Shop σ}
    {result : Except Refusal CartSummary} (h : s.refresh user moment shop = .ok (result, shop')) :
    shop'.hub = shop.hub ∨
      ∃ summary, result = .ok summary ∧
        shop'.hub = shop.hub.observe s.settings user summary moment := by
  rw [refresh, Service.shop, run_adapt, Shop.run_refresh] at h
  rcases hsum : Shop.summarize s.store s.settings user shop.store with o | ⟨e | summary, st⟩ <;>
    rw [hsum] at h <;> cases h
  · exact Or.inl rfl
  · exact Or.inr ⟨summary, rfl, rfl⟩

theorem reads_require (refusal : Refusal) (a : Option α) :
    Reads (require refusal a : ServiceAction σ α) := by
  cases a with
  | none => exact reads_throw refusal
  | some a => exact reads_pure a

variable {s : Service σ} (hs : s.store.Careful)
include hs

theorem reads_product (id : UInt32) : Reads (s.product id) :=
  (reads_call (hs.product? id)).bind fun _ => reads_require _ _

theorem atomic_refresh (user : String) (moment : Moment) : Atomic (s.refresh user moment) :=
  (Shop.atomic_refresh hs s.settings user moment).adapt _

/-- Nothing that is said of the store alone is changed by a refresh. -/
theorem keeps_refresh (P : σ → Prop) (user : String) (moment : Moment) :
    Keeps (fun shop : Shop σ => P shop.store) (s.refresh user moment) := by
  refine Keeps.adapt (fun shop r shop' hshop h => ?_) _
  rw [Shop.refresh_store hs s.settings user h]
  exact hshop

theorem reads_guestLines (place : Nat) (items : List ItemRequest) :
    Reads (s.guestLines place items) := by
  induction items generalizing place with
  | nil => exact reads_pure []
  | cons item items ih =>
    unfold guestLines
    split
    · exact (reads_throw _).bind fun _ => (reads_product hs _).bind fun _ =>
        (ih _).bind fun _ => reads_pure _
    · exact (reads_product hs _).bind fun _ => (ih _).bind fun _ => reads_pure _

theorem reads_guestPrice (cart : GuestCart) : Reads (s.guestPrice cart) :=
  (reads_guestLines hs 0 cart.items).bind fun _ => reads_call (Shop.reads_price hs s.settings _)

end Service

end VolumePricing
