import VolumePricing.Proofs.Runs
import VolumePricing.Proofs.Service.ServerErrors
import VolumePricing.Proofs.Tier.DefaultFlag

/-!
# Runs that go on after an overflow

A request that overflows is not answered, and the next one finds the shop as it
was left. What is left is said by cases: nothing has changed, or the change of
the cart is made whose summary overflowed, or the cart is opened that units did
not go into, or an id is used up by a tier that found no place. None of it
reaches the hub or a product.
-/

namespace VolumePricing

open VolumePricing.Action
open Http (Request Response)

namespace Service

/-- What a request can have left when it overflows. -/
inductive Left (s : Service Memory) (r : Request) (moment : Moment) (shop : Shop Memory) :
    Shop Memory → Prop
  | untouched : Left s r moment shop shop
  | written {user : String} {c : CartChange} {result : Except Refusal Unit} {shop' : Shop Memory}
      (hasked : s.cartChange? r moment = some (user, c))
      (h : s.write user c shop = .ok (result, shop')) : Left s r moment shop shop'
  | opened {user : String} {c : CartChange} (hasked : s.cartChange? r moment = some (user, c)) :
      Left s r moment shop
        ⟨{ shop.store with carts := shop.store.carts.opened user }, shop.hub⟩
  | numbered {staff : String} (hadmitted : s.admitted? r moment = some (.createTier, staff)) :
      Left s r moment shop ⟨{ shop.store with tiers := shop.store.tiers.numbered }, shop.hub⟩

/-- Answers requests one after another. -/
def respondAll {σ : Type} (s : Service σ) (requests : List (Request × Moment)) :
    StateT (Shop σ) (Except Overflow) (List Response) :=
  requests.mapM fun q => s.respond q.1 q.2

/-- Takes requests one after another, whatever becomes of them. -/
def handleAll (s : Service Memory) :
    List (Request × Moment) → Shop Memory → List (Checked Response) × Shop Memory
  | [], shop => ([], shop)
  | q :: requests, shop =>
    let (result, shop) := s.handle q.1 q.2 shop
    let (results, shop) := s.handleAll requests shop
    (result :: results, shop)

section Handling

variable {s : Service Memory} {r : Request} {moment : Moment} {shop shop' : Shop Memory}
  {response : Response} {o : Overflow} {requests : List (Request × Moment)}
  {responses : List Response} {P : Shop Memory → Prop}

theorem left_leaves (s : Service Memory) (r : Request) (moment : Moment) (shop : Shop Memory) :
    s.Left r moment shop (s.leaves r moment shop) := by
  unfold leaves
  cases hasked : s.cartChange? r moment with
  | some asked =>
    obtain ⟨user, c⟩ := asked
    dsimp only
    cases hwrite : s.write user c shop with
    | error o => exact .opened hasked
    | ok p => exact .written hasked hwrite
  | none =>
    dsimp only
    split
    · exact .numbered ‹_›
    · exact .untouched

/-- A change of the cart that was made is left, though the request overflowed after it. -/
theorem leaves_of_write {user : String} {c : CartChange} {result : Except Refusal Unit}
    (hasked : s.cartChange? r moment = some (user, c))
    (h : s.write user c shop = .ok (result, shop')) : s.leaves r moment shop = shop' := by
  unfold leaves
  simp only [hasked, h]

theorem handle_of_ok (h : s.respond r moment shop = .ok (response, shop')) :
    s.handle r moment shop = (.ok response, shop') := by
  unfold handle
  rw [h]

theorem handle_of_error (h : s.respond r moment shop = .error o) :
    s.handle r moment shop = (.error o, s.leaves r moment shop) := by
  unfold handle
  rw [h]

/-- What answers and overflows both lead to holds after a request. -/
theorem handle_leads
    (answered : ∀ response shop', s.respond r moment shop = .ok (response, shop') → P shop')
    (left : ∀ o shop', s.respond r moment shop = .error o → s.Left r moment shop shop' → P shop') :
    P (s.handle r moment shop).2 := by
  cases h : s.respond r moment shop with
  | ok p =>
    obtain ⟨response, shop'⟩ := p
    rw [handle_of_ok h]
    exact answered response shop' h
  | error o =>
    rw [handle_of_error h]
    exact left o _ h (left_leaves s r moment shop)

theorem handleAll_cons (s : Service Memory) (q : Request × Moment)
    (requests : List (Request × Moment)) (shop : Shop Memory) :
    s.handleAll (q :: requests) shop =
      ((s.handle q.1 q.2 shop).1 :: (s.handleAll requests (s.handle q.1 q.2 shop).2).1,
        (s.handleAll requests (s.handle q.1 q.2 shop).2).2) := rfl

/-- What every request keeps, whatever becomes of it, a run of them keeps. -/
theorem handleAll_keeps
    (step : ∀ q ∈ requests, ∀ shop, P shop → P (s.handle q.1 q.2 shop).2) (h : P shop) :
    P (s.handleAll requests shop).2 := by
  induction requests generalizing shop with
  | nil => exact h
  | cons q requests ih =>
    exact ih (fun q' hq => step q' (List.mem_cons_of_mem q hq)) (step q List.mem_cons_self shop h)

/-- Requests are all answered when none of them overflows. -/
theorem respondAll_eq_ok_iff :
    s.respondAll requests shop = .ok (responses, shop') ↔
      s.handleAll requests shop = (responses.map .ok, shop') := by
  induction requests generalizing shop responses with
  | nil =>
    have hnone : s.respondAll [] shop = .ok ([], shop) := rfl
    rw [hnone, handleAll]
    cases responses <;> simp
  | cons q requests ih =>
    rw [handleAll_cons]
    refine mapM_cons_eq_ok.trans ?_
    cases h : s.respond q.1 q.2 shop with
    | error o =>
      rw [handle_of_error h]
      cases responses <;> simp
    | ok p =>
      obtain ⟨response, answered⟩ := p
      rw [handle_of_ok h]
      cases responses with
      | nil => simp
      | cons first rest =>
        have hrest : s.respondAll requests answered = .ok (rest, shop') ↔
            s.handleAll requests answered = (rest.map .ok, shop') := ih
        constructor
        · rintro ⟨_, _, _, hfirst, hrun, hlist⟩
          cases hfirst
          cases hlist
          rw [hrest.mp hrun]
          rfl
        · intro hall
          simp only [List.map_cons, Prod.mk.injEq, List.cons.injEq, Except.ok.injEq] at hall
          obtain ⟨⟨rfl, hresponses⟩, hshop⟩ := hall
          exact ⟨response, rest, answered, rfl, hrest.mpr (Prod.ext hresponses hshop), rfl⟩

theorem respondAll_of_handleAll {results : List (Checked Response)}
    (hrun : s.handleAll requests shop = (results, shop')) (hnone : ∀ o, .error o ∉ results) :
    ∃ responses, s.respondAll requests shop = .ok (responses, shop') := by
  have hanswers : ∃ responses : List Response, results = responses.map .ok := by
    clear hrun
    induction results with
    | nil => exact ⟨[], rfl⟩
    | cons result results ih =>
      cases result with
      | error o => exact absurd List.mem_cons_self (hnone o)
      | ok response =>
        obtain ⟨responses, rfl⟩ := ih fun o ho => hnone o (List.mem_cons_of_mem _ ho)
        exact ⟨response :: responses, rfl⟩
  obtain ⟨responses, rfl⟩ := hanswers
  exact ⟨responses, respondAll_eq_ok_iff.mpr hrun⟩

end Handling

section InMemory

variable {settings : HubSettings} {authority : Authority} {o : Outage} {r : Request}
  {moment : Moment} {shop shop' : Shop Memory}

/-- An overflow comes before the hub, and no product is touched. -/
theorem Left.hub_eq (h : (during settings authority o).Left r moment shop shop') :
    shop'.hub = shop.hub := by
  cases h with
  | untouched => rfl
  | written hasked hwrite => exact (write_sameBut hwrite).1
  | opened => rfl
  | numbered => rfl

theorem Left.products_eq (h : (during settings authority o).Left r moment shop shop') :
    shop'.store.products = shop.store.products := by
  cases h with
  | untouched => rfl
  | written hasked hwrite => exact (write_sameBut hwrite).2.products
  | opened => rfl
  | numbered => rfl

/-- At most an id is used up, and no tier is changed. -/
theorem Left.tiers_eq (h : (during settings authority o).Left r moment shop shop') :
    shop'.store.tiers.tiers = shop.store.tiers.tiers := by
  cases h with
  | untouched => rfl
  | written hasked hwrite => rw [(write_sameBut hwrite).2.tiers]
  | opened => rfl
  | numbered => exact TierTable.tiers_numbered _

end InMemory

end Service

end VolumePricing
