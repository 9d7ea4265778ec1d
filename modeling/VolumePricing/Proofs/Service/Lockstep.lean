import VolumePricing.Proofs.Cart.Renumbering
import VolumePricing.Proofs.Hub.Streams
import VolumePricing.Proofs.Service.CartRoutes
import VolumePricing.Proofs.Service.ServerErrors

/-!
# Two shops for one shopper

Two shops are alike for a shopper when they have the same tiers and products and
the same cart of the shopper, under numbers that may differ. A request that is
not about the cart of somebody else is answered alike in both, numbers aside,
and leaves them alike. One that is about the cart of somebody else is not
noticed, and the first shop stays like the second without it.
-/

namespace VolumePricing

open VolumePricing.Action
open Http (Request Response)

/-- The same tiers, the same products, and the same cart of the shopper. -/
structure Memory.Alike (user : String) (m m₀ : Memory) : Prop where
  tiers : m₀.tiers = m.tiers
  products : m₀.products = m.products
  carts : m.carts.Alike user m₀.carts

theorem Memory.Alike.withCarts {user : String} {m m₀ : Memory} (h : m.Alike user m₀)
    {carts carts₀ : CartTable} (hcarts : carts.Alike user carts₀) :
    (m.withCarts carts).Alike user (m₀.withCarts carts₀) := ⟨h.tiers, h.products, hcarts⟩

/-- Responses with the same status and, but for the numbers of carts and lines, the same body. -/
structure Http.Response.Alike (a b : Response) : Prop where
  status : b.status = a.status
  body : b.body.unnumbered = a.body.unnumbered

theorem Http.Response.Alike.refl (a : Response) : a.Alike a := ⟨rfl, rfl⟩

namespace Service

variable {settings : HubSettings} {authority : Authority} {user other : String} {r : Request}
  {moment : Moment} {endpoint : Endpoint} {shop shop' shop₀ : Shop Memory} {c : CartChange}

/-- A change that the shopper makes in the first shop is made in the second, or refused alike. -/
theorem write_alike (halike : shop.store.Alike user shop₀.store) {result : Except Refusal Unit}
    (h : (inMemory settings authority).write user c shop = .ok (result, shop')) :
    shop'.hub = shop.hub ∧ ∃ m₀', shop'.store.Alike user m₀' ∧
      (inMemory settings authority).write user c shop₀ = .ok (result, ⟨m₀', shop₀.hub⟩) := by
  have set : ∀ productId quantity,
      (inMemory settings authority).write user (.set productId quantity) shop = .ok (result, shop') →
      shop'.hub = shop.hub ∧ ∃ m₀', shop'.store.Alike user m₀' ∧
        (inMemory settings authority).write user (.set productId quantity) shop₀ =
          .ok (result, ⟨m₀', shop₀.hub⟩) := by
    intro productId quantity h
    rw [run_write_set] at h ⊢
    rcases halike.carts.setQuantity productId quantity with ⟨e, hset, hset₀⟩ |
      ⟨cart, carts, cart₀, carts₀, hset, hset₀, hcarts⟩
    · rw [hset] at h
      cases h
      exact ⟨rfl, shop₀.store, halike, by rw [hset₀]⟩
    · rw [hset] at h
      cases h
      exact ⟨rfl, _, halike.withCarts hcarts, by rw [hset₀]; rfl⟩
  cases c with
  | add item =>
    rw [run_write_add] at h ⊢
    by_cases hq : item.quantity ≤ 0
    · rw [if_pos hq] at h ⊢
      cases h
      exact ⟨rfl, shop₀.store, halike, rfl⟩
    · rw [if_neg hq] at h ⊢
      rw [halike.products]
      cases hp : shop.store.products.get? item.productId with
      | none =>
        rw [hp] at h
        cases h
        exact ⟨rfl, shop₀.store, halike, rfl⟩
      | some p =>
        rw [hp] at h
        rcases hadd : shop.store.carts.addItem user p item.quantity with o | ⟨cart, carts⟩ <;>
          simp only [hadd, Except.map] at h <;> cases h
        obtain ⟨cart₀, carts₀, hadd₀, hcarts⟩ := halike.carts.addItem hadd
        exact ⟨rfl, _, halike.withCarts hcarts, by simp only [hadd₀]; rfl⟩
  | set productId quantity => exact set productId quantity h
  | remove productId =>
    rw [write_remove] at h ⊢
    exact set productId 0 h

/-- The summaries of the shopper's cart are the same, numbers aside. -/
theorem refresh_alike (halike : shop.store.Alike user shop₀.store)
    {result : Except Refusal CartSummary}
    (h : (inMemory settings authority).refresh user moment shop = .ok (result, shop')) :
    ∃ summary summary₀, summary₀.unnumbered = summary.unnumbered ∧ result = .ok summary ∧
      shop' = { shop with hub := shop.hub.observe settings user summary moment } ∧
      (inMemory settings authority).refresh user moment shop₀ =
        .ok (.ok summary₀, { shop₀ with hub := shop₀.hub.observe settings user summary₀ moment }) := by
  rw [run_refresh] at h ⊢
  have hsame : (summarizeCart settings.fallback (shop₀.store.carts.get? user)
        (shop₀.store.tiers.list false)).map (·.unnumbered) =
      (summarizeCart settings.fallback (shop.store.carts.get? user)
        (shop.store.tiers.list false)).map (·.unnumbered) := by
    rw [halike.tiers, ← summarizeCart_unnumbered, halike.carts.cart, summarizeCart_unnumbered]
  cases hsum : summarizeCart settings.fallback (shop.store.carts.get? user)
      (shop.store.tiers.list false) with
  | error o => simp [hsum, Except.map] at h
  | ok summary =>
    rw [hsum] at h hsame
    cases hsum₀ : summarizeCart settings.fallback (shop₀.store.carts.get? user)
        (shop₀.store.tiers.list false) with
    | error o => simp [hsum₀, Except.map] at hsame
    | ok summary₀ =>
      simp only [hsum₀, Except.map, Except.ok.injEq] at hsame
      cases h
      exact ⟨summary, summary₀, hsame, rfl, rfl, rfl⟩

/-- What endpoints of a cart come to in both shops: the same refusal, or summaries that are the
same, numbers aside. -/
inductive Likewise : Except Refusal Response → Except Refusal Response → Prop
  | refused (refusal : Refusal) : Likewise (.error refusal) (.error refusal)
  | summarized {summary summary₀ : CartSummary}
    (hsame : summary₀.unnumbered = summary.unnumbered) :
    Likewise (.ok (reply summary)) (.ok (reply summary₀))

theorem Likewise.finished {result result₀ : Except Refusal Response}
    (h : Likewise result result₀) : (finished r result).Alike (finished r result₀) := by
  cases h with
  | refused refusal => exact .refl _
  | summarized hsame =>
    rename_i summary summary₀
    refine ⟨by rw [finished_status, finished_status]; rfl, ?_⟩
    have hbody : ∀ summary : CartSummary, (Service.finished r (.ok (reply summary))).body.unnumbered =
        if r.method = "HEAD" then .empty else .json (encode summary.unnumbered).unnumbered := by
      intro summary
      rw [CartSummary.encode_unnumbered]
      change (sealed r _).body.unnumbered = _
      unfold sealed
      dsimp only
      split <;> rfl
    rw [hbody, hbody, hsame]

/-- An endpoint of a cart serves the shopper in both shops alike. -/
theorem run_alike (hcart : endpoint.isOfCart = true) (halike : shop.store.Alike user shop₀.store)
    {result : Except Refusal Response}
    (h : (inMemory settings authority).run endpoint user r moment shop = .ok (result, shop')) :
    ∃ result₀ shop₀', (inMemory settings authority).run endpoint user r moment shop₀ =
        .ok (result₀, shop₀') ∧ Likewise result result₀ ∧ shop'.store.Alike user shop₀'.store ∧
      Hub.Together settings user moment shop.hub shop₀.hub shop'.hub shop₀'.hub := by
  have summarized : ∀ shop shop₀ : Shop Memory, shop.store.Alike user shop₀.store →
      (do return reply (← (inMemory settings authority).refresh user moment) :
        ServiceAction Memory Response) shop = .ok (result, shop') →
      ∃ result₀ shop₀', (do return reply (← (inMemory settings authority).refresh user moment) :
          ServiceAction Memory Response) shop₀ = .ok (result₀, shop₀') ∧ Likewise result result₀ ∧
        shop'.store.Alike user shop₀'.store ∧
        Hub.Together settings user moment shop.hub shop₀.hub shop'.hub shop₀'.hub := by
    intro shop shop₀ halike h
    rcases bind_eq_ok.mp h with ⟨e, hrefresh, -⟩ | ⟨summary, shop₁, hrefresh, hreply⟩
    · obtain ⟨_, _, -, hok, -⟩ := refresh_alike halike hrefresh
      cases hok
    · obtain ⟨summary, summary₀, hsame, hok, rfl, hrefresh₀⟩ := refresh_alike halike hrefresh
      cases hok
      cases hreply
      refine ⟨.ok (reply summary₀),
        { shop₀ with hub := shop₀.hub.observe settings user summary₀ moment }, ?_,
        .summarized hsame, halike, .observe hsame⟩
      rw [run_bind, hrefresh₀]
      rfl
  cases hasked : Extract.cartChange? r endpoint with
  | some asked =>
    rw [run_cartChange hasked] at h ⊢
    cases asked with
    | error e =>
      cases h
      exact ⟨_, shop₀, rfl, .refused e, halike, .rest⟩
    | ok c =>
      rw [lift_ok, pure_bind] at h ⊢
      rcases bind_eq_ok.mp h with ⟨e, hwrite, rfl⟩ | ⟨_, shop₁, hwrite, hrefresh⟩
      · obtain ⟨hhub, m₀', halike', hwrite₀⟩ := write_alike halike hwrite
        refine ⟨.error e, ⟨m₀', shop₀.hub⟩, ?_, .refused e, halike', hhub ▸ .rest⟩
        rw [change, run_bind, hwrite₀]
      · obtain ⟨hhub, m₀', halike', hwrite₀⟩ := write_alike halike hwrite
        obtain ⟨result₀, shop₀', hrun₀, hlike, halike₂, htogether⟩ :=
          summarized shop₁ ⟨m₀', shop₀.hub⟩ halike' hrefresh
        refine ⟨result₀, shop₀', ?_, hlike, halike₂, hhub ▸ htogether⟩
        rw [change, run_bind, hwrite₀]
        exact hrun₀
  | none =>
    cases endpoint with
    | summary => exact summarized shop shop₀ halike h
    | addItem => cases hasked
    | updateItem place => cases hasked
    | removeItem place => cases hasked
    | _ => cases hcart

/-- The request is about a cart and carries the token of somebody else. -/
def isForeign {σ : Type} (s : Service σ) (user : String) (r : Request) (moment : Moment) : Bool :=
  (Route.ofPath? r.path).any (·.isOfCart) &&
    match s.identify r moment with
    | .ok claims => claims.subject ≠ user
    | .error _ => false

theorem isForeign_of_admitted {σ : Type} {s : Service σ}
    (hadmitted : s.admitted? r moment = some (endpoint, other)) :
    s.isForeign user r moment = (endpoint.isOfCart && decide (other ≠ user)) := by
  obtain ⟨route, hroute, hendpoint⟩ := route_of_admitted hadmitted
  rw [isForeign, hroute, Option.any_some, ← Route.isOfCart_of_endpoint? hendpoint]
  cases hcart : endpoint.isOfCart with
  | false => rfl
  | true =>
    obtain ⟨claims, hclaims, rfl⟩ :=
      speaksFor_of_admitted hadmitted (Endpoint.access_of_isOfCart hcart)
    rw [identify_eq_ok.mpr hclaims]

/-- What is not about the cart of somebody else is answered alike in both shops. -/
theorem respond_alike (hown : (inMemory settings authority).isForeign user r moment = false)
    (halike : shop.store.Alike user shop₀.store) {response : Response}
    (h : (inMemory settings authority).respond r moment shop = .ok (response, shop')) :
    ∃ response₀ shop₀', (inMemory settings authority).respond r moment shop₀ =
        .ok (response₀, shop₀') ∧ response.Alike response₀ ∧ shop'.store.Alike user shop₀'.store ∧
      Hub.Together settings user moment shop.hub shop₀.hub shop'.hub shop₀'.hub := by
  cases hadmitted : (inMemory settings authority).admitted? r moment with
  | none =>
    obtain ⟨dismissal, -, hanswer⟩ := respond_dismissed hadmitted
    rw [hanswer] at h
    cases h
    exact ⟨response, shop₀, hanswer shop₀, .refl _, halike, .rest⟩
  | some admitted =>
    obtain ⟨endpoint, name⟩ := admitted
    rw [respond_admitted hadmitted] at h ⊢
    rcases hrun : (inMemory settings authority).run endpoint name r moment shop with
      o | ⟨result, shop₁⟩ <;> rw [hrun] at h <;> cases h
    cases hcart : endpoint.isOfCart with
    | true =>
      have hname : name = user := by
        rw [isForeign_of_admitted hadmitted, hcart] at hown
        simpa using hown
      subst hname
      obtain ⟨result₀, shop₀', hrun₀, hlike, halike', htogether⟩ := run_alike hcart halike hrun
      exact ⟨_, shop₀', by rw [hrun₀]; rfl, hlike.finished, halike', htogether⟩
    | false =>
      obtain ⟨hcarts, hhub, hmoved⟩ := (cartless_run hcart).of_run hrun
      have hshop₀ : shop₀ = shop.withCarts shop₀.store.carts shop₀.hub := by
        rcases shop₀ with ⟨⟨tiers, products, carts⟩, hub⟩
        obtain ⟨rfl, rfl, -⟩ := halike
        rfl
      refine ⟨_, shop₁.withCarts shop₀.store.carts shop₀.hub, ?_, .refl _, ?_, hhub ▸ .rest⟩
      · conv_lhs => rw [hshop₀]
        rw [hmoved]
        rfl
      · exact ⟨rfl, rfl, hcarts ▸ halike.carts⟩

/-- What somebody else changes in the first shop makes no difference to the shopper. -/
theorem write_foreign (hub : Hub) (m₀ : Memory) (hne : other ≠ user) :
    Keeps (fun shop : Shop Memory => shop.store.Alike user m₀ ∧ shop.hub = hub)
      ((inMemory settings authority).write other c) := by
  rintro shop result shop' ⟨halike, hhub⟩ h
  rcases write_cases h with rfl | ⟨cart, carts, rfl, ⟨p, quantity, -, hadd⟩ | ⟨_, quantity, hset⟩⟩
  · exact ⟨halike, hhub⟩
  · exact ⟨⟨halike.tiers, halike.products, halike.carts.addItem_of_ne hne hadd⟩, hhub⟩
  · exact ⟨⟨halike.tiers, halike.products, halike.carts.setQuantity_of_ne hne hset⟩, hhub⟩

/-- What is about the cart of somebody else leaves the first shop like the second. The hub may
have taken in a summary of that cart. -/
theorem respond_foreign (hforeign : (inMemory settings authority).isForeign user r moment = true)
    (halike : shop.store.Alike user shop₀.store) {response : Response}
    (h : (inMemory settings authority).respond r moment shop = .ok (response, shop')) :
    shop'.store.Alike user shop₀.store ∧
      (shop'.hub = shop.hub ∨ ∃ other summary, other ≠ user ∧
        shop'.hub = shop.hub.observe settings other summary moment) := by
  have hcareful : (inMemory settings authority).store.Careful := Memory.store_careful
  let Before : Shop Memory → Prop := fun shop' =>
    shop'.store.Alike user shop₀.store ∧ shop'.hub = shop.hub
  let After : Shop Memory → Prop := fun shop' => shop'.store.Alike user shop₀.store ∧
    (shop'.hub = shop.hub ∨ ∃ other summary, other ≠ user ∧
      shop'.hub = shop.hub.observe settings other summary moment)
  have hle : ∀ shop', Before shop' → After shop' := fun shop' hshop => ⟨hshop.1, Or.inl hshop.2⟩
  refine leads_respond (P := Before) hle (fun endpoint other hadmitted => ?_) ⟨halike, rfl⟩ h
  obtain ⟨hcart, hne⟩ : endpoint.isOfCart = true ∧ other ≠ user := by
    rw [isForeign_of_admitted hadmitted] at hforeign
    simpa using hforeign
  have hrefresh : Leads Before After ((inMemory settings authority).refresh other moment) := by
    rintro shop₁ result shop₂ ⟨halike₁, hhub₁⟩ hrun
    have hstore : shop₂.store = shop₁.store :=
      keeps_refresh hcareful (· = shop₁.store) other moment shop₁ result shop₂ rfl hrun
    refine ⟨hstore ▸ halike₁, ?_⟩
    rcases refresh_hub hrun with hsame | ⟨summary, -, hobserved⟩
    · exact Or.inl (hsame.trans hhub₁)
    · exact Or.inr ⟨other, summary, hne, by rw [hobserved, hhub₁]; rfl⟩
  refine run_of_calls hcareful (robust_leads hle) (fun c _ => ?_) (fun haccess => ?_)
    fun _ => hrefresh
  · exact (write_foreign shop.hub shop₀.store hne).bind_leads hle fun _ => hrefresh.bind_pure _
  · rw [Endpoint.access_of_isOfCart hcart] at haccess
    cases haccess

end Service

end VolumePricing
