import VolumePricing.Proofs.Hub.Tracking
import VolumePricing.Proofs.Service.Handling
import VolumePricing.Proofs.Service.Priceable
import VolumePricing.Proofs.Service.StaffRoutes
import VolumePricing.Proofs.Service.TierUpdates

/-!
# Authorization

A request reaches only what its token is good for. The tables of tiers and
products change for staff alone. The cart of a shopper is read and changed, and
a summary of it is kept, for that shopper alone; somebody else's summary can at
most take its place in the hub.
-/

namespace VolumePricing

open VolumePricing.Action
open Http (Request Response)

variable {σ : Type}

/-- The store with another answer for whoever reads the cart of one shopper. -/
def Store.readingCart (store : Store σ) (user : String) (answer : StoreAction σ (Option Cart)) :
    Store σ :=
  { store with cart? := fun other => if other = user then answer else store.cart? other }

namespace Service

/-- The service over the store with another answer for whoever reads the cart of one shopper. -/
def readingCart (s : Service σ) (user : String) (answer : StoreAction σ (Option Cart)) :
    Service σ := { s with store := s.store.readingCart user answer }

section Reading

variable {s : Service σ} {user other : String} {r : Request} {moment : Moment}
  {endpoint : Endpoint} (answer : StoreAction σ (Option Cart))

theorem refresh_readingCart (hne : other ≠ user) :
    (s.readingCart user answer).refresh other moment = s.refresh other moment := by
  have hcart : (s.store.readingCart user answer).cart? other = s.store.cart? other := if_neg hne
  have hsummarize : Shop.summarize (s.store.readingCart user answer) s.settings other =
      Shop.summarize s.store s.settings other := by
    unfold Shop.summarize
    rw [hcart]
    rfl
  unfold refresh Shop.refresh readingCart
  rw [hsummarize]

theorem guestLines_readingCart (place : Nat) (items : List ItemRequest) :
    (s.readingCart user answer).guestLines place items = s.guestLines place items := by
  induction items generalizing place with
  | nil => rfl
  | cons item items ih =>
    simp only [guestLines, ih]
    rfl

theorem run_readingCart (hne : endpoint.access = .shopper → other ≠ user) :
    (s.readingCart user answer).run endpoint other r moment = s.run endpoint other r moment := by
  cases endpoint with
  | summary =>
    simp only [run, refresh_readingCart answer (hne rfl)]
  | addItem =>
    simp only [run, addItem, refresh_readingCart answer (hne rfl)]
    rfl
  | updateItem place =>
    simp only [run, updateItem, refresh_readingCart answer (hne rfl)]
    rfl
  | removeItem place =>
    simp only [run, removeItem, refresh_readingCart answer (hne rfl)]
    rfl
  | guestPrice =>
    simp only [run, guestPrice, guestLines_readingCart]
    rfl
  | _ => rfl

/-- Nobody but the shopper depends on what is in the cart. -/
theorem respond_readingCart (h : ¬ s.SpeaksFor user r moment) :
    (s.readingCart user answer).respond r moment = s.respond r moment := by
  funext shop
  rw [run_respond, run_respond, run_answer, run_answer]
  cases Route.ofPath? r.path with
  | none => rfl
  | some route =>
    simp only [run_answerAt]
    split
    · rfl
    · cases route.endpoint? r.method with
      | none => rfl
      | some endpoint =>
        have hscreen : (s.readingCart user answer).screen endpoint.access r moment =
            s.screen endpoint.access r moment := rfl
        simp only [run_serve, hscreen]
        cases hclaims : s.screen endpoint.access r moment with
        | error refusal => rfl
        | ok claims =>
          have hne : endpoint.access = .shopper → (claims.map (·.subject)).getD "" ≠ user := by
            rintro haccess rfl
            exact h (speaksFor_of_screen (haccess ▸ hclaims))
          simp only [run_readingCart answer hne]

end Reading

/-- Nor does anybody but the shopper leave anything else by an overflow. -/
theorem handle_readingCart {s : Service Memory} {user : String} {r : Request} {moment : Moment}
    (answer : StoreAction Memory (Option Cart)) (h : ¬ s.SpeaksFor user r moment) :
    (s.readingCart user answer).handle r moment = s.handle r moment := by
  have hadmitted : (s.readingCart user answer).admitted? r moment = s.admitted? r moment := rfl
  have hasked : (s.readingCart user answer).cartChange? r moment = s.cartChange? r moment := rfl
  have hwrite : ∀ other c, (s.readingCart user answer).write other c = s.write other c := by
    intro other c
    cases c <;> rfl
  funext shop
  unfold handle leaves
  simp only [respond_readingCart answer h, hadmitted, hasked, hwrite]

variable {settings : HubSettings} {authority : Authority} {o : Outage} {r : Request}
  {moment : Moment} {shop shop' : Shop Memory} {user : String} {response : Response}

/-- Only for staff do the tiers and the products change. -/
theorem tables_respond (hstaff : ¬ (during settings authority o).FromStaff r moment)
    (h : (during settings authority o).respond r moment shop = .ok (response, shop')) :
    shop'.store.tiers = shop.store.tiers ∧ shop'.store.products = shop.store.products := by
  refine keeps_respond (P := fun shop' : Shop Memory => shop'.store.tiers = shop.store.tiers ∧
    shop'.store.products = shop.store.products) (fun endpoint user hadmitted => ?_) ⟨rfl, rfl⟩ h
  exact run_of_calls during_careful (robust_keeps _)
    (fun c _ => keeps_change_tables (fun tiers products =>
      tiers = shop.store.tiers ∧ products = shop.store.products) c)
    (fun haccess => absurd (fromStaff_of_admitted hadmitted haccess) hstaff)
    (fun _ => keeps_refresh during_careful (fun m => m.tiers = shop.store.tiers ∧
      m.products = shop.store.products) user moment)

/-- The cart of the shopper is as it was, and so is the summary in the hub, unless it had to make
room for the summary of the one who asks. -/
structure Spares (s : Service Memory) (user : String) (r : Request) (moment : Moment)
    (shop shop' : Shop Memory) : Prop where
  cart : shop'.store.carts.get? user = shop.store.carts.get? user
  summary : shop'.hub.find? user = shop.hub.find? user ∨
    shop'.hub.find? user = none ∧
      ∃ other, s.SpeaksFor other r moment ∧ shop.hub.Evicts s.settings other user

/-- Only for the shopper does the cart change, or a summary of it come into the hub. -/
theorem spares_respond (hother : ¬ (during settings authority o).SpeaksFor user r moment)
    (h : (during settings authority o).respond r moment shop = .ok (response, shop')) :
    (during settings authority o).Spares user r moment shop shop' := by
  let Same : Hub → Memory → Prop := fun hub m =>
    m.carts.get? user = shop.store.carts.get? user ∧ hub = shop.hub
  have hspared : ∀ shop' : Shop Memory, Same shop'.hub shop'.store →
      (during settings authority o).Spares user r moment shop shop' :=
    fun shop' hsame => ⟨hsame.1, Or.inl (hsame.2 ▸ rfl)⟩
  refine leads_respond (P := fun shop' => Same shop'.hub shop'.store) hspared
    (fun endpoint other hadmitted => ?_) ⟨rfl, rfl⟩ h
  have hne : endpoint.access = .shopper → other ≠ user := by
    rintro haccess rfl
    exact hother (speaksFor_of_admitted hadmitted haccess)
  have hrefresh : endpoint.access = .shopper → Leads (fun shop' => Same shop'.hub shop'.store)
      ((during settings authority o).Spares user r moment shop)
      ((during settings authority o).refresh other moment) := by
    rintro haccess shop₁ result shop₂ ⟨hcart, hhub⟩ hrun
    have hstore : shop₂.store = shop₁.store :=
      keeps_refresh during_careful (· = shop₁.store) other moment shop₁ result shop₂ rfl hrun
    refine ⟨by rw [hstore, hcart], ?_⟩
    rcases refresh_hub hrun with hsame | ⟨summary, -, hobserved⟩
    · exact Or.inl (by rw [hsame, hhub])
    · rw [hobserved, hhub]
      rcases Hub.find?_observe_of_ne shop.hub settings summary moment (hne haccess) with
        hsame | ⟨hgone, hevicts⟩
      · exact Or.inl hsame
      · exact Or.inr ⟨hgone, other, speaksFor_of_admitted hadmitted haccess, hevicts⟩
  have hwrite : ∀ c, endpoint.access = .shopper → Keeps (fun shop' => Same shop'.hub shop'.store)
      ((during settings authority o).write other c) := by
    rintro c haccess shop₁ result shop₂ ⟨hcart, hhub⟩ hrun
    obtain ⟨hsame, hbut⟩ := write_sameBut hrun
    exact ⟨by rw [hbut.carts user (Ne.symm (hne haccess)), hcart], by rw [hsame, hhub]⟩
  refine run_of_calls during_careful (robust_leads hspared) (fun c hasked => ?_) (fun _ => ?_) hrefresh
  · have haccess := access_of_cartChange? hasked
    exact (hwrite c haccess).bind_leads hspared fun _ => (hrefresh haccess).bind_pure _
  · -- The cart and the hub are no part of what the calls of staff work on.
    have htiers : ∀ hub, (during settings authority o).store.KeptByTierCalls (Same hub) :=
      fun hub => (Memory.keptByTierCalls fun _ carts =>
        carts.get? user = shop.store.carts.get? user ∧ hub = shop.hub).during o
    have hprices : ∀ hub id prices,
        Keeps (Same hub) ((during settings authority o).store.updatePrices id prices) :=
      fun hub id prices => o.keeps_guard _ (Memory.keeps_updatePrices (fun _ carts =>
        carts.get? user = shop.store.carts.get? user ∧ hub = shop.hub) id prices)
    exact (StaffCalls.of_kept htiers fun _ => hprices).imp (Keeps.leads hspared)

/-- A cart is changed for the one whom the token names. -/
theorem speaksFor_of_cartChange? {σ : Type} {s : Service σ} {c : CartChange}
    (h : s.cartChange? r moment = some (user, c)) : s.SpeaksFor user r moment := by
  obtain ⟨endpoint, hadmitted, hasked⟩ := cartChange?_eq_some.mp h
  exact speaksFor_of_admitted hadmitted (access_of_cartChange? hasked)

/-- Nor does a request that overflows change these tables for anyone else. -/
theorem tables_handle (hstaff : ¬ (during settings authority o).FromStaff r moment) :
    let shop' := ((during settings authority o).handle r moment shop).2
    shop'.store.tiers = shop.store.tiers ∧ shop'.store.products = shop.store.products := by
  apply handle_leads (P := fun shop' : Shop Memory =>
    shop'.store.tiers = shop.store.tiers ∧ shop'.store.products = shop.store.products)
  · intro response shop' h
    exact tables_respond hstaff h
  · intro e shop' _ h
    refine ⟨?_, h.products_eq⟩
    cases h with
    | untouched => rfl
    | written hasked hwrite => exact (write_sameBut hwrite).2.tiers
    | opened hasked => rfl
    | numbered hadmitted => exact absurd (fromStaff_of_admitted hadmitted rfl) hstaff

/-- A request that overflows can have opened or changed the cart of the one who asks, and has not
come to the hub. -/
theorem spares_handle (hother : ¬ (during settings authority o).SpeaksFor user r moment) :
    (during settings authority o).Spares user r moment shop
      ((during settings authority o).handle r moment shop).2 := by
  have hne : ∀ {other c}, (during settings authority o).cartChange? r moment = some (other, c) →
      user ≠ other := by
    rintro other c hasked rfl
    exact hother (speaksFor_of_cartChange? hasked)
  apply handle_leads
  · intro response shop' h
    exact spares_respond hother h
  · intro e shop' _ h
    refine ⟨?_, Or.inl (by rw [h.hub_eq])⟩
    cases h with
    | untouched => rfl
    | written hasked hwrite => exact (write_sameBut hwrite).2.carts user (hne hasked)
    | opened hasked => exact CartTable.get?_opened_of_ne (hne hasked)
    | numbered hadmitted => rfl

/-- Whatever is asked and in whatever order, and whatever overflows: without a token of staff no run
changes the tiers or the products. Without a token of the shopper no request reads or changes the
cart, nor brings a summary of it into the hub. On the routes of staff the answer is 401 to everyone
without a token that verifies and 403 to everyone of another role, before the rest of the request
is looked at. -/
theorem handleAll_authorized (settings : HubSettings) (authority : Authority) (o : Outage) :
    (∀ requests results shop shop',
      (during settings authority o).handleAll requests shop = (results, shop') →
      (∀ q ∈ requests, ¬ (during settings authority o).FromStaff q.1 q.2) →
      shop'.store.tiers = shop.store.tiers ∧ shop'.store.products = shop.store.products) ∧
    (∀ user r moment, ¬ (during settings authority o).SpeaksFor user r moment →
      (∀ answer, ((during settings authority o).readingCart user answer).handle r moment =
        (during settings authority o).handle r moment) ∧
      ∀ shop result shop',
        (during settings authority o).handle r moment shop = (result, shop') →
        (during settings authority o).Spares user r moment shop shop') ∧
    ∀ r moment, StaffRoute r.method r.path →
      ((∀ claims, ¬ (during settings authority o).Carries r moment claims) →
        ∃ response, response.status = 401 ∧
          (∀ shop, (during settings authority o).respond r moment shop = .ok (response, shop)) ∧
          (during settings authority o).AnswersUnread r moment response) ∧
      ∀ claims, (during settings authority o).Carries r moment claims →
        claims.role ≠ "ADMIN" → claims.role ≠ "MANAGER" →
        ∃ response, response.status = 403 ∧
          (∀ shop, (during settings authority o).respond r moment shop = .ok (response, shop)) ∧
          (during settings authority o).AnswersUnread r moment response := by
  refine ⟨fun requests results shop shop' hrun hnone => ?_, fun user r moment hother => ?_,
    fun r moment hroute => ?_⟩
  · let Same : Shop Memory → Prop := fun shop' =>
      shop'.store.tiers = shop.store.tiers ∧ shop'.store.products = shop.store.products
    have hkept : Same ((during settings authority o).handleAll requests shop).2 := by
      apply handleAll_keeps (P := Same)
      · intro q hq shop₁ hsame
        let shop₂ := ((during settings authority o).handle q.1 q.2 shop₁).2
        have hstep : shop₂.store.tiers = shop₁.store.tiers ∧
            shop₂.store.products = shop₁.store.products := tables_handle (hnone q hq)
        exact ⟨hstep.1.trans hsame.1, hstep.2.trans hsame.2⟩
      · exact ⟨rfl, rfl⟩
    rw [hrun] at hkept
    exact hkept
  · refine ⟨fun answer => handle_readingCart answer hother, fun shop result shop' h => ?_⟩
    have hspared : (during settings authority o).Spares user r moment shop
        ((during settings authority o).handle r moment shop).2 := spares_handle hother
    rw [h] at hspared
    exact hspared
  · obtain ⟨hanyone, hothers⟩ := respond_staffRoute (during settings authority o) r moment
    constructor
    · intro hnone
      obtain ⟨response, hstatus, hunread⟩ := hanyone hnone
      exact ⟨response, hstatus, hunread r rfl rfl hroute, hunread⟩
    · intro claims hcarries hadmin hmanager
      obtain ⟨response, hstatus, hunread⟩ := hothers claims hcarries hadmin hmanager
      exact ⟨response, hstatus, hunread r rfl rfl hroute, hunread⟩

end Service

namespace Seed

/-- A shopper tries to update a tier. -/
def intrusion : Request := { blanking with headers := (order "").headers }

/-- An order of a jacket by the same shopper. -/
def jacketOrder : Request :=
  { order "" with body := "\x7b\"product_id\":2,\"quantity\":1\x7d" }

/-- As many shirts as can be counted, and then a jacket. -/
def overfull : List (Request × Moment) :=
  [(order "9223372036854775807", ⟨0, 0⟩), (jacketOrder, ⟨1, 1⟩)]

theorem admitted?_jacketOrder (store : Store Memory) (settings : HubSettings) (moment : Moment) :
    (Service.mk store settings .byName).admitted? jacketOrder moment = some (.addItem, "ana") :=
  admitted?_order store settings "" moment

theorem body_jacketOrder : Extract.body ItemRequest jacketOrder = .ok ⟨2, 1⟩ := by cbv

theorem cartChange?_jacketOrder (store : Store Memory) (settings : HubSettings) (moment : Moment) :
    (Service.mk store settings .byName).cartChange? jacketOrder moment =
      some ("ana", .add ⟨2, 1⟩) := by
  simp [Service.cartChange?, admitted?_jacketOrder, Extract.cartChange?, body_jacketOrder, Except.map,
    Except.toOption]

end Seed

/-- The second of two orders overflows with the jacket in the cart, and changes neither the tables
nor the cart of somebody else. An update of a tier is refused. -/
theorem Service.handleAll_authorized_orders :
    ∃ response shop, (during {} .byName .none).handleAll Seed.overfull ⟨Seed.opened, .new {}⟩ =
        ([.ok response, .error .addition], shop) ∧
      (shop.store.carts.linesOf "ana").map (·.productId) = [1, 2] ∧
      shop.store.tiers = Seed.opened.tiers ∧ shop.store.products = Seed.opened.products ∧
      shop.store.carts.get? "bea" = none ∧
      ∃ response, response.status = 403 ∧
        (during {} .byName .none).respond Seed.intrusion ⟨2, 0⟩ shop = .ok (response, shop) := by
  obtain ⟨response, shop₁, shop, result, hfirst, hwrite, hover, hlines⟩ :
      ∃ response shop₁ shop result,
        (during {} .byName .none).respond (Seed.order "9223372036854775807") ⟨0, 0⟩
          ⟨Seed.opened, .new {}⟩ = .ok (response, shop₁) ∧
        (during {} .byName .none).write "ana" (.add ⟨2, 1⟩) shop₁ = .ok (result, shop) ∧
        (during {} .byName .none).respond Seed.jacketOrder ⟨1, 1⟩ shop₁ = .error .addition ∧
        (shop.store.carts.linesOf "ana").map (·.productId) = [1, 2] :=
    ⟨_, _, _, _, (respond_cartChange (Seed.cartChange?_order Seed.body_order_most) _).trans rfl, rfl,
      (respond_cartChange (Seed.cartChange?_jacketOrder _ _ _) _).trans rfl, rfl⟩
  have hleft : (during {} .byName .none).leaves Seed.jacketOrder ⟨1, 1⟩ shop₁ = shop :=
    leaves_of_write (Seed.cartChange?_jacketOrder _ _ _) hwrite
  have hsecond : (during {} .byName .none).handle Seed.jacketOrder ⟨1, 1⟩ shop₁ =
      (.error .addition, shop) := by
    rw [handle_of_error hover, hleft]
  have hrun : (during {} .byName .none).handleAll Seed.overfull ⟨Seed.opened, .new {}⟩ =
      ([.ok response, .error .addition], shop) := by
    rw [Seed.overfull, handleAll_cons, handle_of_ok hfirst, handleAll_cons, hsecond]
    rfl
  have hcarries : ∀ r : Request, Extract.bearer? r = some "ana" → ∀ moment claims,
      (during {} .byName .none).Carries r moment claims → claims = ⟨"ana", "CUSTOMER", 0⟩ := by
    rintro r hbearer moment claims ⟨token, htoken, hverify⟩
    rw [hbearer] at htoken
    cases htoken
    cases hverify
    rfl
  have horder : Extract.bearer? (Seed.order "9223372036854775807") = some "ana" := by decide +kernel
  have hjacket : Extract.bearer? Seed.jacketOrder = some "ana" := by decide +kernel
  have hintrusion : Extract.bearer? Seed.intrusion = some "ana" := by decide +kernel
  have hother : ∀ r : Request, Extract.bearer? r = some "ana" → ∀ moment,
      ¬ (during {} .byName .none).FromStaff r moment ∧
        ¬ (during {} .byName .none).SpeaksFor "bea" r moment := by
    intro r hbearer moment
    constructor
    · rintro ⟨claims, hclaims, hrole⟩
      rw [hcarries r hbearer _ _ hclaims] at hrole
      simp at hrole
    · rintro ⟨claims, hclaims, hsubject⟩
      rw [hcarries r hbearer _ _ hclaims] at hsubject
      simp at hsubject
  have hroute : StaffRoute Seed.intrusion.method Seed.intrusion.path := by
    have hpath : Seed.intrusion.path = "/settings/price-tiers".toList ++ '/' :: ['1'] := by
      decide +kernel
    rw [hpath]
    exact .tier (by decide) (by decide) (by decide) (by decide)
  obtain ⟨htables, hcarts, hroutes⟩ := handleAll_authorized {} .byName .none
  obtain ⟨htiers, hproducts⟩ := htables _ _ _ _ hrun (by
    intro q hq
    rcases List.mem_pair.mp hq with rfl | rfl
    · exact (hother _ horder _).1
    · exact (hother _ hjacket _).1)
  obtain ⟨-, hspared⟩ := hcarts "bea" (Seed.order "9223372036854775807") ⟨0, 0⟩ (hother _ horder _).2
  obtain ⟨-, hspared'⟩ := hcarts "bea" Seed.jacketOrder ⟨1, 1⟩ (hother _ hjacket _).2
  have hbea : shop.store.carts.get? "bea" = none :=
    (hspared' _ _ _ hsecond).cart.trans (hspared _ _ _ (handle_of_ok hfirst)).cart
  obtain ⟨-, hrefused⟩ := hroutes Seed.intrusion ⟨2, 0⟩ hroute
  obtain ⟨refused, hstatus, hrespond, -⟩ := hrefused ⟨"ana", "CUSTOMER", 0⟩
    ⟨"ana", hintrusion, rfl⟩ (by decide) (by decide)
  exact ⟨response, shop, hrun, hlines, htiers, hproducts, hbea, refused, hstatus, hrespond shop⟩

end VolumePricing
