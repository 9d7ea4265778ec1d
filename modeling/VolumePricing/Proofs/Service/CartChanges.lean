import VolumePricing.Proofs.Service.Admission
import VolumePricing.Store.Seed

/-!
# Changes of the stored cart

A shopper may add units of a product, set the quantity of a line, or take a
line out. The three requests are answered in the same way: the change is made,
and the answer is the summary of a refresh.
-/

namespace VolumePricing

open VolumePricing.Action
open Http (Request Response)

namespace Service

variable {σ : Type} (s : Service σ) {r : Request} {user : String} {moment : Moment}

/-- Makes the change and answers with the new summary. -/
def change (user : String) (moment : Moment) (c : CartChange) : ServiceAction σ Response := do
  s.write user c
  return reply (← s.refresh user moment)

variable {s}

theorem addItem_eq (item : ItemRequest) :
    s.addItem user item moment = (do s.write user (.add item); s.refresh user moment) := by
  by_cases h : item.quantity ≤ 0 <;> simp [addItem, write, h]

theorem updateItem_eq (productId : UInt32) (quantity : Int64) :
    s.updateItem user productId quantity moment =
      (do s.write user (.set productId quantity); s.refresh user moment) := by
  simp [updateItem, write]

theorem removeItem_eq (productId : UInt32) :
    s.removeItem user productId moment =
      (do s.write user (.remove productId); s.refresh user moment) := by
  simp [removeItem, write]

/-- What the three endpoints have in common. -/
theorem run_cartChange {endpoint : Endpoint} {asked : Extracted CartChange}
    (h : Extract.cartChange? r endpoint = some asked) :
    s.run endpoint user r moment = (do s.change user moment (← asked)) := by
  cases endpoint <;> cases h
  · cases hbody : Extract.body ItemRequest r <;>
      simp [run, hbody, Except.map, change, addItem_eq]
  · rename_i place
    cases hid : Extract.id "product_id" place with
    | error e => simp [run, hid, Except.bind]
    | ok productId =>
      cases hbody : Extract.body QuantityRequest r <;>
        simp [run, hid, hbody, Except.bind, Except.map, change, updateItem_eq]
  · rename_i place
    cases hid : Extract.id "product_id" place <;>
      simp [run, hid, Except.map, change, removeItem_eq]

theorem cartChange?_eq_some {c : CartChange} :
    s.cartChange? r moment = some (user, c) ↔
      ∃ endpoint, s.admitted? r moment = some (endpoint, user) ∧
        Extract.cartChange? r endpoint = some (.ok c) := by
  constructor
  · intro h
    obtain ⟨⟨endpoint, name⟩, hadmitted, h⟩ := Option.bind_eq_some_iff.mp h
    obtain ⟨asked, hasked, h⟩ := Option.bind_eq_some_iff.mp h
    obtain ⟨c', hc, h⟩ := Option.bind_eq_some_iff.mp h
    cases h
    cases asked with
    | error e => cases hc
    | ok a =>
      cases hc
      exact ⟨endpoint, hadmitted, hasked⟩
  · rintro ⟨endpoint, hadmitted, hasked⟩
    simp [cartChange?, hadmitted, hasked, Except.toOption]

/-- A request for a change is answered with what the change comes to. -/
theorem respond_cartChange {c : CartChange} (h : s.cartChange? r moment = some (user, c))
    (shop : Shop σ) :
    s.respond r moment shop =
      (s.change user moment c shop).map fun p => (finished r p.1, p.2) := by
  obtain ⟨endpoint, hadmitted, hasked⟩ := cartChange?_eq_some.mp h
  rw [respond_admitted hadmitted, run_cartChange hasked, lift_ok, pure_bind]

end Service

/-- An authority for trials, where a token is the name of its subject. -/
def Authority.byName : Authority where
  issue subject _ _ := .ok subject
  verify token _ := some ⟨token, "CUSTOMER", 0⟩

namespace Seed

/-- The store of a new shop. -/
def opened : Memory := ⟨⟨tiers, 4⟩, .ofProducts products, .empty⟩

theorem holding_opened : Memory.holding tiers products = .ok opened := rfl

/-- An order of so many shirts. -/
def order (quantity : String) : Request where
  method := "POST"
  target := "/cart/items"
  headers := [("authorization", "Bearer ana"), ("content-type", "application/json")]
  body := "\x7b\"product_id\":1,\"quantity\":" ++ quantity ++ "\x7d"

/-- An order comes to its endpoint whatever is in its body. -/
theorem admitted?_order (store : Store Memory) (settings : HubSettings) (quantity : String)
    (moment : Moment) :
    (Service.mk store settings .byName).admitted? (order quantity) moment =
      some (.addItem, "ana") := by
  have hroute : Route.ofPath? (order quantity).path = some .items := by
    change Route.ofPath? (order "").path = some .items
    decide +kernel
  have hbearer : Extract.bearer? (order quantity) = some "ana" := by
    change Extract.bearer? (order "") = some "ana"
    decide +kernel
  have hscreen : (Service.mk store settings .byName).screen .shopper (order quantity) moment =
      .ok (some ⟨"ana", "CUSTOMER", 0⟩) := by
    simp [Service.screen, Service.identify, hbearer, Authority.byName, Except.map]
  have hmethod : (order quantity).method ≠ "OPTIONS" := by
    change "POST" ≠ "OPTIONS"
    decide
  unfold Service.admitted?
  rw [if_neg hmethod, hroute]
  change ((Service.mk store settings .byName).screen .shopper (order quantity) moment).toOption.bind
    _ = _
  rw [hscreen]
  rfl

theorem cartChange?_order {store : Store Memory} {settings : HubSettings} {quantity : String}
    {moment : Moment} {item : ItemRequest}
    (h : Extract.body ItemRequest (order quantity) = .ok item) :
    (Service.mk store settings .byName).cartChange? (order quantity) moment =
      some ("ana", .add item) := by
  simp [Service.cartChange?, admitted?_order, Extract.cartChange?, h, Except.map, Except.toOption]

theorem body_order_one : Extract.body ItemRequest (order "1") = .ok ⟨1, 1⟩ := by cbv

theorem body_order_two : Extract.body ItemRequest (order "2") = .ok ⟨1, 2⟩ := by cbv

end Seed

end VolumePricing
