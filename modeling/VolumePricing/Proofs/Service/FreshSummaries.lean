import VolumePricing.Proofs.Hub.Tracking
import VolumePricing.Proofs.Service.Handling
import VolumePricing.Proofs.Service.InMemory
import VolumePricing.Proofs.Summary.Unnumbered

/-!
# Summaries that are up to date

The store knows the carts, and the hub the last summaries of the shoppers it
tracks. Nothing ties the two together but that every change of a cart is
followed by a refresh. Between two requests that is enough: no summary that the
hub holds is older than the cart it shows.
-/

namespace VolumePricing

open VolumePricing.Action
open Http (Request Response)

namespace CartSummary

/-- The summary shows the cart line by line, and the sum of its units. -/
structure Shows (s : CartSummary) (cart : Cart) : Prop where
  cartId : s.cartId = some cart.id
  items : s.items.map (fun i => (i.cartItemId, i.productId, i.quantity, i.cost)) =
    cart.items.map fun l => (l.cartItemId, l.productId, l.quantity, l.cost)
  totalQuantity : s.totalQuantity.toInt = unitsOf cart.items

/-- The summary is one of the cart, or says that there is none. -/
def UpToDate (s : CartSummary) : Option Cart → Prop
  | none => s = .empty
  | some cart => s.Shows cart

/-- A summary is up to date with the cart that it was made from. -/
theorem upToDate_of_summarizeCart {fallback : Float} {cart : Option Cart} {tiers : List PriceTier}
    {s : CartSummary} (h : summarizeCart fallback cart tiers = .ok s) : s.UpToDate cart := by
  cases cart with
  | none =>
    cases h
    rfl
  | some c =>
    rw [summarizeCart] at h
    cases hpriced : priceLines fallback c.items tiers with
    | error o =>
      rw [hpriced] at h
      cases h
    | ok priced =>
      rw [hpriced] at h
      cases h
      obtain ⟨hsum, -, -⟩ := priceLines_eq_ok hpriced
      obtain ⟨-, hitems, -⟩ := priceLines_items hpriced
      refine ⟨rfl, ?_, Checked.toInt_of_sumInt64 hsum⟩
      change priced.items.map _ = _
      rw [hitems, List.map_map]
      rfl

end CartSummary

namespace Hub

/-- What the hub holds of the shopper is up to date, if it holds anything. -/
def UpToDateFor (h : Hub) (carts : CartTable) (user : String) : Prop :=
  ∀ t, h.find? user = some t → t.summary.UpToDate (carts.get? user)

/-- A summary of the cart as it is makes up for the one shopper who was left behind. -/
theorem upToDateFor_observe {h : Hub} {carts : CartTable} {settings : HubSettings} {user : String}
    {summary : CartSummary} {moment : Moment} (hnew : summary.UpToDate (carts.get? user))
    (hothers : ∀ other, other ≠ user → h.UpToDateFor carts other) (other : String) :
    (h.observe settings user summary moment).UpToDateFor carts other := by
  intro t ht
  by_cases hother : other = user
  · subst hother
    rw [find?_observe_self] at ht
    cases hfind : h.find? other with
    | none =>
      rw [hfind] at ht
      cases ht
      exact hnew
    | some old =>
      rw [hfind] at ht
      cases ht
      exact hnew
  · rcases find?_observe_of_ne h settings summary moment (Ne.symm hother) with hsame | ⟨hgone, -⟩
    · rw [hsame] at ht
      exact hothers other hother t ht
    · rw [hgone] at ht
      cases ht

end Hub

namespace Service

variable {settings : HubSettings} {authority : Authority} {r : Request} {moment : Moment}
  {shop shop' : Shop Memory} {user : String}

/-- A refresh brings its shopper up to date and leaves nobody behind. -/
theorem upToDate_refresh {result : Except Refusal CartSummary}
    (hothers : ∀ other, other ≠ user → shop.hub.UpToDateFor shop.store.carts other)
    (h : (inMemory settings authority).refresh user moment shop = .ok (result, shop'))
    (other : String) : shop'.hub.UpToDateFor shop'.store.carts other := by
  rw [run_refresh] at h
  cases hsum : summarizeCart settings.fallback (shop.store.carts.get? user)
      (shop.store.tiers.list false) with
  | error o =>
    rw [hsum] at h
    cases h
  | ok summary =>
    rw [hsum] at h
    cases h
    exact Hub.upToDateFor_observe (CartSummary.upToDate_of_summarizeCart hsum) hothers other

/-- A change leaves one shopper behind until the refresh that follows it. -/
theorem upToDate_change (c : CartChange) :
    Keeps (fun shop : Shop Memory => ∀ user, shop.hub.UpToDateFor shop.store.carts user)
      ((inMemory settings authority).change user moment c) := by
  intro shop result shop' hshop h
  rcases bind_eq_ok.mp h with ⟨e, hwrite, -⟩ | ⟨_, shop₁, hwrite, hrest⟩
  · rw [atomic_write Memory.store_careful shop e shop' hwrite]
    exact hshop
  · obtain ⟨hhub, hsame⟩ := write_sameBut (o := .none) hwrite
    have hothers : ∀ other, other ≠ user → shop₁.hub.UpToDateFor shop₁.store.carts other := by
      intro other hne t ht
      rw [hhub] at ht
      rw [hsame.carts other hne]
      exact hshop other t ht
    rcases bind_eq_ok.mp hrest with ⟨e, hrefresh, -⟩ | ⟨summary, shop₂, hrefresh, hreply⟩
    · exact upToDate_refresh hothers hrefresh
    · cases hreply
      exact upToDate_refresh hothers hrefresh

/-- No request leaves anybody behind. -/
theorem upToDate_respond (hshop : ∀ user, shop.hub.UpToDateFor shop.store.carts user)
    {response : Response}
    (h : (inMemory settings authority).respond r moment shop = .ok (response, shop')) :
    ∀ user, shop'.hub.UpToDateFor shop'.store.carts user := by
  have hcareful : (inMemory settings authority).store.Careful := Memory.store_careful
  let Fresh : Hub → CartTable → Prop := fun hub carts => ∀ user, hub.UpToDateFor carts user
  refine keeps_respond (P := fun shop => Fresh shop.hub shop.store.carts)
    (fun endpoint user _ => ?_) hshop h
  exact run_of_calls hcareful (robust_keeps _) (fun c _ => upToDate_change c)
    (fun _ => .of_kept (P := fun hub (m : Memory) => Fresh hub m.carts)
      (fun hub => Memory.keptByTierCalls fun _ carts => Fresh hub carts)
      fun _ hub => Memory.keeps_updatePrices fun _ carts => Fresh hub carts)
    (fun _ shop result shop' hshop hrefresh =>
      upToDate_refresh (fun other _ => hshop other) hrefresh)

/-- Whatever the store held at first and whatever requests were answered since, the summary that
the hub holds of a shopper shows the stored cart, or says that there is none. -/
theorem respondAll_upToDate {m₀ : Memory} {requests : List (Request × Moment)}
    {responses : List Response}
    (hrun : (inMemory settings authority).respondAll requests ⟨m₀, .new settings⟩ =
      .ok (responses, shop))
    {t : Tracked} (ht : shop.hub.find? user = some t) :
    t.summary.UpToDate (shop.store.carts.get? user) := by
  have hopened : ∀ user, (Hub.new settings).UpToDateFor m₀.carts user := by
    intro user t ht
    cases ht
  exact mapM_keeps
    (P := fun shop : Shop Memory => ∀ user, shop.hub.UpToDateFor shop.store.carts user)
    (fun q _ shop _ shop' hshop h => upToDate_respond hshop h) hopened hrun user t ht

end Service

theorem Service.respondAll_upToDate_order :
    ∃ responses shop t cart, (inMemory {} .byName).respondAll [(Seed.order "2", ⟨0, 0⟩)]
        ⟨Seed.opened, .new {}⟩ = .ok (responses, shop) ∧
      shop.hub.find? "ana" = some t ∧ shop.store.carts.get? "ana" = some cart ∧
      cart.items ≠ [] ∧ t.summary.Shows cart := by
  obtain ⟨response, shop, t, cart, hfirst, htracked, hcart, hitems⟩ : ∃ response shop t cart,
      (inMemory {} .byName).respond (Seed.order "2") ⟨0, 0⟩ ⟨Seed.opened, .new {}⟩ =
        .ok (response, shop) ∧ shop.hub.find? "ana" = some t ∧
      shop.store.carts.get? "ana" = some cart ∧ cart.items ≠ [] :=
    ⟨_, _, _, _, (respond_cartChange (Seed.cartChange?_order Seed.body_order_two) _).trans rfl, rfl,
      rfl, List.cons_ne_nil _ _⟩
  have hrun : (inMemory {} .byName).respondAll [(Seed.order "2", ⟨0, 0⟩)]
      ⟨Seed.opened, .new {}⟩ = .ok ([response], shop) :=
    mapM_cons_eq_ok.mpr ⟨response, [], shop, hfirst, rfl, rfl⟩
  have hshows := respondAll_upToDate hrun htracked
  rw [hcart] at hshows
  exact ⟨[response], shop, t, cart, hrun, htracked, hcart, hitems, hshows⟩

end VolumePricing
