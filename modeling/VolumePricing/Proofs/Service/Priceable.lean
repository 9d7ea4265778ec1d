import VolumePricing.Proofs.Service.GuestCarts
import VolumePricing.Proofs.Service.Handling
import VolumePricing.Proofs.Service.Overflows

/-!
# Carts that can be priced

As long as no request has overflowed, every stored cart can be priced. From
there on each request about a cart overflows or not by what it asks for and
what the tables hold, and by nothing else.
-/

namespace VolumePricing

open VolumePricing.Action Checked
open Http (Request Response)

/-- Every cart holds only filled lines, and its units have a word. -/
def Memory.Priceable (m : Memory) : Prop :=
  ∀ user, AllFilled (m.carts.linesOf user) ∧
    unitsOf (m.carts.linesOf user) ≤ Int64.maxValue.toInt

/-- What a request asks of a cart. -/
inductive CartAsk
  | summary
  | change (c : CartChange)
  | guest (items : List ItemRequest)
  deriving DecidableEq, Repr

/-- What a request asks of a cart, at an endpoint that prices one. -/
def Extract.cartAsk? (r : Request) (endpoint : Endpoint) : Option (Extracted CartAsk) :=
  match endpoint with
  | .summary => some (.ok .summary)
  | .guestPrice => some ((body GuestCart r).map fun cart => .guest cart.items)
  | _ => (cartChange? r endpoint).map (·.map .change)

/-- What is asked leads out of the words: more units than fit, or a number that is not there. -/
def CartAsk.Overruns (m : Memory) (user : String) : CartAsk → Prop
  | .summary => False
  | .change c => c.Accepted m user ∧
      (c.NeedsNumber m user ∨ Int64.maxValue.toInt < c.unitsAfter m user)
  | .guest items => (∀ item ∈ items, item.Sellable m) ∧
      Int64.maxValue.toInt < total (items.map (·.quantity))

/-- A cart that can be priced can be priced without one of its lines. -/
theorem CartAsk.not_overruns_remove {m : Memory} (hp : m.Priceable) (user : String)
    (productId : UInt32) : ¬ (CartAsk.change (.remove productId)).Overruns m user := by
  rintro ⟨-, hneeds | hunits⟩
  · exact hneeds
  · obtain ⟨hfilled, hle⟩ := hp user
    have hnonneg : 0 ≤ unitsOfProduct (m.carts.linesOf user) productId :=
      hfilled.unitsOfProduct_nonneg
    simp only [CartChange.unitsAfter] at hunits
    omega

namespace Service

variable {settings : HubSettings} {authority : Authority} {user : String} {moment : Moment}
  {shop shop' : Shop Memory} {c : CartChange} {r : Request} {endpoint : Endpoint}

/-- An endpoint that prices a cart overflows when what it is asked for overruns. -/
theorem overflows_run (hp : shop.store.Priceable) {asked : Extracted CartAsk}
    (h : Extract.cartAsk? r endpoint = some asked) :
    Overflows ((inMemory settings authority).run endpoint user r moment shop) ↔
      ∃ ask, asked = .ok ask ∧ ask.Overruns shop.store user := by
  have of_change : ∀ {a : Extracted CartChange}, Extract.cartChange? r endpoint = some a →
      (Overflows ((inMemory settings authority).run endpoint user r moment shop) ↔
        ∃ ask, a.map CartAsk.change = .ok ask ∧ ask.Overruns shop.store user) := by
    intro a ha
    rw [run_cartChange ha]
    cases a with
    | error e => simp [Except.map]
    | ok c =>
      rw [lift_ok, pure_bind, overflows_change moment (hp user).1]
      simp [Except.map, CartAsk.Overruns]
  cases endpoint with
  | summary =>
    cases h
    have hunits := (hp user).2
    have hrun : Overflows ((inMemory settings authority).run .summary user r moment shop) ↔
        Overflows ((inMemory settings authority).refresh user moment shop) := by
      simp [run]
    rw [hrun, overflows_refresh (hp user).1]
    simpa [CartAsk.Overruns] using hunits
  | guestPrice =>
    cases h
    cases hbody : Extract.body GuestCart r with
    | error e => simp [run, hbody, Except.map]
    | ok cart => simpa [run, hbody, Except.map, CartAsk.Overruns] using overflows_guestPrice cart.items
  | addItem =>
    cases h
    exact of_change rfl
  | updateItem place =>
    cases h
    exact of_change rfl
  | removeItem place =>
    cases h
    exact of_change rfl
  | _ => cases h

/-- A change that did not overflow leaves carts that can be priced. -/
theorem priceable_change (hp : shop.store.Priceable) {result : Except Refusal Response}
    (h : (inMemory settings authority).change user moment c shop = .ok (result, shop')) :
    shop'.store.Priceable := by
  have hcareful : (inMemory settings authority).store.Careful := Memory.store_careful
  rcases bind_eq_ok.mp h with ⟨e, hwrite, -⟩ | ⟨_, shop₁, hwrite, hrest⟩
  · rw [atomic_write hcareful shop e shop' hwrite]
    exact hp
  · obtain ⟨haccepted, hholds⟩ := write_eq_ok (hp user).1 hwrite
    have hover : ¬ Overflows ((inMemory settings authority).change user moment c shop) := by
      rw [h]
      exact not_overflows_ok _
    rw [overflows_change moment (hp user).1] at hover
    have hfit : c.unitsAfter shop.store user ≤ Int64.maxValue.toInt := by
      by_contra hlt
      exact hover ⟨haccepted, Or.inr (not_le.mp hlt)⟩
    have hpriceable : shop₁.store.Priceable := by
      intro other
      by_cases hother : other = user
      · subst hother
        exact ⟨hholds.filled, hholds.units_eq ▸ hfit⟩
      · rw [hholds.others other hother]
        exact hp other
    exact ((keeps_refresh hcareful Memory.Priceable user moment).bind fun _ =>
      (reads_pure _).keeps) shop₁ result shop' hpriceable hrest

/-- So does every other request. -/
theorem priceable_respond (hp : shop.store.Priceable) {response : Response}
    (h : (inMemory settings authority).respond r moment shop = .ok (response, shop')) :
    shop'.store.Priceable := by
  have hcareful : (inMemory settings authority).store.Careful := Memory.store_careful
  refine keeps_respond (P := fun shop => shop.store.Priceable) (fun endpoint user _ => ?_) hp h
  let Fits : CartTable → Prop := fun carts => ∀ user,
    AllFilled (carts.linesOf user) ∧ unitsOf (carts.linesOf user) ≤ Int64.maxValue.toInt
  exact run_of_calls hcareful (robust_keeps _)
    (fun c _ shop result shop' hshop hchange => priceable_change hshop hchange)
    (fun _ => .of_kept (P := fun _ => Memory.Priceable)
      (fun _ => Memory.keptByTierCalls fun _ carts => Fits carts)
      fun _ _ => Memory.keeps_updatePrices fun _ carts => Fits carts)
    (fun _ => keeps_refresh hcareful Memory.Priceable user moment)

/-- A run that starts without carts leaves carts that can be priced. -/
theorem priceable_respondAll {tiers : List PriceTier} {products : List Product} {m₀ : Memory}
    {requests : List (Request × Moment)} {responses : List Response}
    (hopen : Memory.holding tiers products = .ok m₀)
    (hrun : (inMemory settings authority).respondAll requests ⟨m₀, .new settings⟩ =
      .ok (responses, shop)) : shop.store.Priceable := by
  have hopened : m₀.Priceable := by
    intro user
    have hlines : m₀.carts.linesOf user = [] := by
      rw [(Memory.holding_eq_ok hopen).2.2]
      rfl
    rw [hlines]
    exact ⟨by simp [AllFilled], by simp [unitsOf, Int64.toInt_maxValue]⟩
  exact mapM_keeps (P := fun shop : Shop Memory => shop.store.Priceable)
    (fun q _ shop _ shop' hshop h => priceable_respond hshop h) hopened hrun

/-- After any run without an overflow every stored cart can be priced. Then a request about a cart
overflows exactly when what it asks for overruns. A change whose units have no word may be made
all the same, and the cart that is stored by it is never priced again. -/
theorem respondAll_overflows {tiers : List PriceTier} {products : List Product} {m₀ : Memory}
    {requests : List (Request × Moment)} {responses : List Response}
    (hopen : Memory.holding tiers products = .ok m₀)
    (hrun : (inMemory settings authority).respondAll requests ⟨m₀, .new settings⟩ =
      .ok (responses, shop)) :
    shop.store.Priceable ∧
      (∀ r moment, (inMemory settings authority).admitted? r moment = none →
        ¬ Overflows ((inMemory settings authority).respond r moment shop)) ∧
      (∀ r moment endpoint user asked,
        (inMemory settings authority).admitted? r moment = some (endpoint, user) →
        Extract.cartAsk? r endpoint = some asked →
        (Overflows ((inMemory settings authority).respond r moment shop) ↔
          ∃ ask, asked = .ok ask ∧ ask.Overruns shop.store user)) ∧
      ∀ user c shop', (inMemory settings authority).write user c shop = .ok (.ok (), shop') →
        Int64.maxValue.toInt < c.unitsAfter shop.store user →
        ∀ moment, Overflows ((inMemory settings authority).refresh user moment shop') := by
  have hp : shop.store.Priceable := priceable_respondAll hopen hrun
  refine ⟨hp, fun r moment hnone => ?_, fun r moment endpoint user asked hadmitted hasked => ?_,
    fun user c shop' hwrite hunits moment => ?_⟩
  · rw [overflows_respond]
    simp [hnone]
  · rw [← overflows_run hp hasked, respond_admitted hadmitted, overflows_map]
  · obtain ⟨-, hholds⟩ := write_eq_ok (hp user).1 hwrite
    rw [overflows_refresh hholds.filled, hholds.units_eq]
    exact hunits

end Service

namespace Seed

theorem body_order_most : Extract.body ItemRequest (order "9223372036854775807") =
    .ok ⟨1, 9223372036854775807⟩ := by cbv

end Seed

theorem Service.respondAll_overflows_orders :
    ∃ responses shop, (inMemory {} .byName).respondAll
        [(Seed.order "9223372036854775807", ⟨0, 0⟩)] ⟨Seed.opened, .new {}⟩ =
          .ok (responses, shop) ∧
      shop.store.Priceable ∧
      Overflows ((inMemory {} .byName).respond (Seed.order "1") ⟨1, 1⟩ shop) := by
  obtain ⟨response, shop, hfirst, hproduct, hunits⟩ : ∃ response shop,
      (inMemory {} .byName).respond (Seed.order "9223372036854775807") ⟨0, 0⟩
          ⟨Seed.opened, .new {}⟩ = .ok (response, shop) ∧
        (shop.store.products.get? 1).isSome = true ∧
        unitsOf (shop.store.carts.linesOf "ana") = 9223372036854775807 :=
    ⟨_, _, (respond_cartChange (Seed.cartChange?_order Seed.body_order_most) _).trans rfl, rfl, rfl⟩
  have hrun : (inMemory {} .byName).respondAll [(Seed.order "9223372036854775807", ⟨0, 0⟩)]
      ⟨Seed.opened, .new {}⟩ = .ok ([response], shop) :=
    mapM_cons_eq_ok.mpr ⟨response, [], shop, hfirst, rfl, rfl⟩
  obtain ⟨hpriceable, -, hoverflows, -⟩ := respondAll_overflows Seed.holding_opened hrun
  refine ⟨[response], shop, hrun, hpriceable, ?_⟩
  refine (hoverflows _ _ _ _ _ (Seed.admitted?_order _ _ _ _) rfl).mpr
    ⟨.change (.add ⟨1, 1⟩), by rw [Seed.body_order_one]; rfl, ⟨by decide, hproduct⟩, Or.inr ?_⟩
  simp only [CartChange.unitsAfter, hunits]
  decide

end VolumePricing
