import VolumePricing.Proofs.Service.FilledLines
import VolumePricing.Proofs.Service.Priceable
import VolumePricing.Proofs.Service.Stocked
import VolumePricing.Proofs.Summary.Unnumbered

/-!
# One cart, stored or kept elsewhere

A stored cart costs what the same units cost in a cart that is kept elsewhere,
as long as a tier prices them. Without a tier a stored line is priced by the
price that its product had when it was put in, and a line kept elsewhere by the
price that the product has now. The two part when prices are renewed in between.
-/

namespace VolumePricing

open VolumePricing.Action Checked
open Http (Request Response)

/-- The units that would be asked for to have the same cart elsewhere. -/
def Cart.units (cart : Cart) : List ItemRequest := cart.items.map fun l => ⟨l.productId, l.quantity⟩

/-- The line with the stored price that its product has now. -/
def Memory.renewed (m : Memory) (line : CartLine) : CartLine :=
  { line with
    wholesale := ((m.products.get? line.productId).map (·.wholesale)).getD line.wholesale }

theorem CartLine.holds_shows : CartLine.Holds Shows where
  newLine _ _ _ := ⟨rfl, rfl, rfl, rfl⟩
  quantity _ h := ⟨h.1, h.2, h.3, h.4⟩

theorem CartLine.holds_current : CartLine.Holds fun line p => line.wholesale = p.wholesale where
  newLine _ _ _ := rfl
  quantity _ h := h

/-- A line kept elsewhere is the stored line, renewed, under another number. -/
theorem Memory.unnumbered_guestLine {m : Memory} {line : CartLine} {p : Product}
    (hp : m.products.get? line.productId = some p) (h : line.Shows p) (place : Nat) :
    (p.guestLine place line.quantity).unnumbered = (m.renewed line).unnumbered := by
  have hid : p.id = line.productId := by simpa using List.find?_some hp
  simp [Product.guestLine, CartLine.unnumbered, renewed, hp, hid, h.1, h.2, h.3, h.4]

theorem Memory.renewed_of_current {m : Memory} {line : CartLine} {p : Product}
    (hp : m.products.get? line.productId = some p) (h : line.wholesale = p.wholesale) :
    m.renewed line = line := by
  simp [renewed, hp, ← h]

/-- The summary with every line at the stored price that its product has now. -/
def CartSummary.renewed (s : CartSummary) (m : Memory) (lines : List CartLine) (fallback : Float) :
    CartSummary :=
  let items := (lines.map m.renewed).map (·.summarize s.tier fallback)
  { s with items, subtotal := sumAmounts (items.map (·.subtotal)) }

section Renewed

variable {m : Memory} {lines : List CartLine} {tiers : List PriceTier} {fallback : Float}
  {s guest : CartSummary}

theorem priceLines_renewed (h : priceLines fallback lines tiers = .ok s) :
    priceLines fallback (lines.map m.renewed) tiers = .ok (s.renewed m lines fallback) := by
  have hquantities : (lines.map m.renewed).map (·.quantity) = lines.map (·.quantity) := by
    rw [List.map_map]
    rfl
  rw [priceLines_of_quantities fallback tiers hquantities, h]
  rfl

/-- Where the price of no line depends on the renewal, the renewed summary is the stored one. -/
theorem renewed_eq_self (h : priceLines fallback lines tiers = .ok s)
    (hprices : ∀ line ∈ lines,
      (m.renewed line).summarize s.tier fallback = line.summarize s.tier fallback) :
    s.renewed m lines fallback = s := by
  obtain ⟨-, hitems, hsubtotal⟩ := priceLines_items h
  have hrenewed : (lines.map m.renewed).map (·.summarize s.tier fallback) = s.items := by
    rw [hitems, List.map_map]
    exact List.map_congr_left hprices
  simp only [CartSummary.renewed, hrenewed, ← hsubtotal]

end Renewed

namespace Service

variable {settings : HubSettings} {authority : Authority} {shop : Shop Memory}

/-- The units of stored lines come to the same lines, renewed. -/
theorem run_guestLines_units (settings : HubSettings) (authority : Authority) (place : Nat)
    {items : List CartLine} (hfilled : AllFilled items)
    (hshows : ∀ line ∈ items, ∃ p, shop.store.products.get? line.productId = some p ∧ line.Shows p) :
    ∃ lines, (inMemory settings authority).guestLines place
        (items.map fun l => ⟨l.productId, l.quantity⟩) shop = .ok (.ok lines, shop) ∧
      lines.map (·.unnumbered) = items.map fun l => (shop.store.renewed l).unnumbered := by
  induction items generalizing place with
  | nil => exact ⟨[], rfl, rfl⟩
  | cons line items ih =>
    have hq : ¬ line.quantity ≤ 0 :=
      Int64.not_nonpos_iff.mpr (hfilled line List.mem_cons_self)
    obtain ⟨p, hp, hline⟩ := hshows line List.mem_cons_self
    obtain ⟨lines, hlines, hsame⟩ := ih (place + 1) (fun l hl => hfilled l (List.mem_cons_of_mem _ hl))
      fun l hl => hshows l (List.mem_cons_of_mem _ hl)
    refine ⟨p.guestLine place line.quantity :: lines, ?_, ?_⟩
    · rw [List.map_cons, run_guestLines_cons, if_neg hq, hp, hlines]
      rfl
    · rw [List.map_cons, List.map_cons, hsame, Memory.unnumbered_guestLine hp hline]

/-- The price of a cart kept elsewhere is that of the stored lines, renewed. -/
theorem run_guestPrice_units (settings : HubSettings) (authority : Authority) {cart : Cart}
    {priced : CartSummary} (hfilled : AllFilled cart.items)
    (hshows : ∀ line ∈ cart.items,
      ∃ p, shop.store.products.get? line.productId = some p ∧ line.Shows p)
    (hpriced : priceLines settings.fallback (cart.items.map shop.store.renewed)
      (shop.store.tiers.list false) = .ok priced) :
    ∃ guest, (inMemory settings authority).guestPrice ⟨cart.units⟩ shop = .ok (.ok guest, shop) ∧
      guest.unnumbered = priced.unnumbered := by
  obtain ⟨lines, hlines, hsame⟩ := run_guestLines_units settings authority 0 hfilled hshows
  have hrenewed : lines.map (·.unnumbered) =
      (cart.items.map shop.store.renewed).map (·.unnumbered) := by
    rw [hsame, List.map_map]
    rfl
  have hprice := priceLines_unnumbered settings.fallback lines (shop.store.tiers.list false)
  rw [hrenewed, priceLines_unnumbered, hpriced] at hprice
  cases hguest : priceLines settings.fallback lines (shop.store.tiers.list false) with
  | error e => simp [hguest, Except.map] at hprice
  | ok guest =>
    simp only [hguest, Except.map, Except.ok.injEq] at hprice
    refine ⟨guest, ?_, hprice.symm⟩
    rw [guestPrice, run_bind, Cart.units, hlines]
    change call (Shop.price Memory.store settings lines) shop = _
    rw [run_price, hguest]
    rfl

/-- Whatever overflowed in a run, the lines of a cart after it are filled and have their products. -/
theorem lines_of_handleAll {tiers : List PriceTier} {products : List Product} {m₀ : Memory}
    {requests : List (Request × Moment)} {results : List (Checked Response)} {user : String}
    {cart : Cart} (hopen : Memory.holding tiers products = .ok m₀)
    (hrun : (inMemory settings authority).handleAll requests ⟨m₀, .new settings⟩ =
      (results, shop)) (hcart : shop.store.carts.get? user = some cart) :
    AllFilled cart.items ∧
      ∀ line ∈ cart.items,
        ∃ p, shop.store.products.get? line.productId = some p ∧ line.Shows p := by
  have hlines : shop.store.carts.linesOf user = cart.items := by simp [CartTable.linesOf, hcart]
  have harrived : Arrived settings authority
      ((inMemory settings authority).handleAll requests ⟨m₀, .new settings⟩).2 :=
    arrived_handleAll hopen .none requests
  have hshows : Memory.EachLine CartLine.Shows
      ((inMemory settings authority).handleAll requests ⟨m₀, .new settings⟩).2.store :=
    eachLine_handleAll CartLine.holds_shows (fun _ _ _ _ _ _ _ h => ⟨h.1, h.2, h.3, h.4⟩) hopen
  rw [hrun] at harrived hshows
  exact ⟨hlines ▸ harrived.filled user, hlines ▸ hshows user⟩

/-- The answers of the two requests have the units, the tiers and the costs in common, and the
unit prices are those of the lines at the tier, stored here and renewed there. -/
structure CostsAlike (settings : HubSettings) (m : Memory) (cart : Cart)
    (stored guest : CartSummary) : Prop where
  totalQuantity : guest.totalQuantity = stored.totalQuantity
  tier : guest.tier = stored.tier
  nextTier : guest.nextTier = stored.nextTier
  allTiers : guest.allTiers = stored.allTiers
  items : guest.items.map (fun i => (i.productId, i.quantity, i.cost)) =
    stored.items.map (fun i => (i.productId, i.quantity, i.cost))
  storedPrices : stored.items.map (·.unitPrice) =
    cart.items.map fun l => l.unitPrice stored.tier settings.fallback
  guestPrices : guest.items.map (·.unitPrice) =
    cart.items.map fun l => (m.renewed l).unitPrice stored.tier settings.fallback

/-- A summary that is the renewed one, numbers aside, costs alike. -/
theorem CostsAlike.of_renewed {tiers : List PriceTier} {m : Memory} {cart : Cart}
    {priced guest : CartSummary}
    (hpriced : priceLines settings.fallback cart.items tiers = .ok priced)
    (hguest : guest.unnumbered =
      (priced.renewed m cart.items settings.fallback).unnumbered) :
    CostsAlike settings m cart { priced with cartId := some cart.id } guest := by
  obtain ⟨-, hitems, -⟩ := priceLines_items hpriced
  simp only [CartSummary.unnumbered, CartSummary.renewed, CartSummary.mk.injEq] at hguest
  obtain ⟨-, hquantity, -, hguestItems, htier, hnext, hall⟩ := hguest
  refine ⟨hquantity, htier, hnext, hall, ?_, ?_, ?_⟩
  · rw [ItemSummary.map_eq_of_unnumbered (fun _ => rfl) hguestItems, hitems]
    simp only [List.map_map]
    rfl
  · rw [hitems, List.map_map]
    rfl
  · rw [ItemSummary.map_eq_of_unnumbered (fun _ => rfl) hguestItems]
    simp only [List.map_map]
    rfl

/-- Units that have no word are priced neither here nor there. -/
theorem overflows_of_units {user user' : String} {cart : Cart} {r r' : Request}
    {moment moment' : Moment} (hcart : shop.store.carts.get? user = some cart)
    (hfilled : AllFilled cart.items)
    (hshows : ∀ line ∈ cart.items,
      ∃ p, shop.store.products.get? line.productId = some p ∧ line.Shows p)
    (hsummary : (inMemory settings authority).admitted? r moment = some (.summary, user))
    (hguest : (inMemory settings authority).admitted? r' moment' = some (.guestPrice, user'))
    (hunits : Extract.body GuestCart r' = .ok ⟨cart.units⟩)
    (hover : Int64.maxValue.toInt < unitsOf cart.items) :
    Overflows ((inMemory settings authority).respond r moment shop) ∧
      Overflows ((inMemory settings authority).respond r' moment' shop) := by
  have hlines : shop.store.carts.linesOf user = cart.items := by simp [CartTable.linesOf, hcart]
  constructor
  · have hrefresh : Overflows ((inMemory settings authority).refresh user moment shop) := by
      rw [overflows_refresh (hlines ▸ hfilled), hlines]
      exact hover
    rw [respond_admitted hsummary, overflows_map]
    simpa [run] using hrefresh
  · have hsellable : ∀ item ∈ cart.units, item.Sellable shop.store := by
      intro item hitem
      obtain ⟨line, hline, rfl⟩ := List.mem_map.mp hitem
      obtain ⟨p, hp, -⟩ := hshows line hline
      exact ⟨hfilled line hline, by rw [hp, Option.isSome_some]⟩
    have htotal : total (cart.units.map (·.quantity)) = unitsOf cart.items := by
      rw [Cart.units, List.map_map]
      rfl
    have hprice : Overflows ((inMemory settings authority).guestPrice ⟨cart.units⟩ shop) :=
      (overflows_guestPrice cart.units).mpr ⟨hsellable, htotal ▸ hover⟩
    rw [respond_admitted hguest, overflows_map]
    simpa [run, hunits] using hprice

/-- In every state that requests lead to, whatever overflowed on the way, a stored cart and the same
units kept elsewhere are answered alike, as long as the sum of the units fits into a word. It fits
if no request overflowed; where it does not, neither of the two is answered. The answers differ in
nothing but numbers where a tier prices the cart, where its lines have the stored prices that their
products have now, or where no prices were ever renewed; a cart kept elsewhere has no number. -/
theorem handleAll_guest_prices {tiers : List PriceTier} {products : List Product} {m₀ : Memory}
    {requests : List (Request × Moment)} {results : List (Checked Response)}
    {user user' : String} {cart : Cart} {r r' : Request} {moment moment' : Moment}
    (hopen : Memory.holding tiers products = .ok m₀)
    (hrun : (inMemory settings authority).handleAll requests ⟨m₀, .new settings⟩ =
      (results, shop))
    (hcart : shop.store.carts.get? user = some cart)
    (hsummary : (inMemory settings authority).admitted? r moment = some (.summary, user))
    (hguest : (inMemory settings authority).admitted? r' moment' = some (.guestPrice, user'))
    (hunits : Extract.body GuestCart r' = .ok ⟨cart.units⟩) :
    ((∀ o, .error o ∉ results) → unitsOf cart.items ≤ Int64.maxValue.toInt) ∧
      (Int64.maxValue.toInt < unitsOf cart.items →
        Overflows ((inMemory settings authority).respond r moment shop) ∧
          Overflows ((inMemory settings authority).respond r' moment' shop)) ∧
      (unitsOf cart.items ≤ Int64.maxValue.toInt →
        ∃ (stored guest : CartSummary) (shop' : Shop Memory),
          (inMemory settings authority).respond r moment shop =
            .ok (finished r (.ok (reply stored)), shop') ∧
          (inMemory settings authority).respond r' moment' shop =
            .ok (finished r' (.ok (reply guest)), shop) ∧
          CostsAlike settings shop.store cart stored guest ∧
          (stored.tier.isSome = true ∨ (∀ line ∈ cart.items, shop.store.renewed line = line) ∨
            (∀ q ∈ requests, ∀ staff,
              (inMemory settings authority).admitted? q.1 q.2 ≠ some (.recalculate, staff)) →
            guest.unnumbered = { stored.unnumbered with cartId := none })) := by
  have hlines : shop.store.carts.linesOf user = cart.items := by simp [CartTable.linesOf, hcart]
  obtain ⟨hfilled, hshows⟩ := lines_of_handleAll hopen hrun hcart
  refine ⟨fun hnone => ?_, overflows_of_units hcart hfilled hshows hsummary hguest hunits,
    fun hfits => ?_⟩
  · obtain ⟨responses, hresponses⟩ := respondAll_of_handleAll hrun hnone
    exact hlines ▸ (priceable_respondAll hopen hresponses user).2
  · obtain ⟨priced, hpriced⟩ := exists_priceLines settings.fallback
      (shop.store.tiers.list false) (fun line hline => (hfilled line hline).le) hfits
    obtain ⟨guest, hprice, hsame⟩ :=
      run_guestPrice_units settings authority hfilled hshows (priceLines_renewed hpriced)
    let stored : CartSummary := { priced with cartId := some cart.id }
    refine ⟨stored, guest, { shop with hub := shop.hub.observe settings user stored moment },
      ?_, ?_, .of_renewed hpriced hsame, fun hcase => ?_⟩
    · rw [respond_admitted hsummary, run, run_bind, run_refresh, hcart]
      simp only [summarizeCart, hpriced, Except.map]
      rfl
    · rw [respond_admitted hguest, run, hunits, lift_ok, pure_bind, run_bind, hprice]
      rfl
    · have hprices : ∀ line ∈ cart.items,
          (shop.store.renewed line).summarize priced.tier settings.fallback =
            line.summarize priced.tier settings.fallback := by
        intro line hline
        rcases hcase with htier | hcurrent | hnever
        · obtain ⟨t, ht⟩ := Option.isSome_iff_exists.mp htier
          change priced.tier = some t at ht
          rw [ht]
          rfl
        · rw [hcurrent line hline]
        · have hkept := eachLine_handleAll CartLine.holds_current
            (fun q hq staff hadmitted => absurd hadmitted (hnever q hq staff)) hopen
          rw [hrun] at hkept
          obtain ⟨p, hp, hcurrent⟩ := hkept user line (hlines ▸ hline)
          rw [Memory.renewed_of_current hp hcurrent]
      obtain ⟨hnumber, -, -⟩ := priceLines_items hpriced
      rw [hsame, renewed_eq_self hpriced hprices]
      simp only [CartSummary.unnumbered, stored, hnumber, Option.map_none]

end Service

namespace Seed

/-- The shopper asks for the summary of the stored cart. -/
def look : Request where
  method := "GET"
  target := "/cart/summary"
  headers := [("authorization", "Bearer ana")]

/-- Somebody asks what two shirts cost. -/
def askedElsewhere : Request where
  method := "POST"
  target := "/cart/guest-price"
  headers := [("content-type", "application/json")]
  body := "\x7b\"items\":[\x7b\"product_id\":1,\"quantity\":2\x7d]\x7d"

theorem body_askedElsewhere : Extract.body GuestCart askedElsewhere = .ok ⟨[⟨1, 2⟩]⟩ := by cbv

end Seed

theorem Service.handleAll_guest_prices_order :
    ∃ results shop, (inMemory {} .byName).handleAll [(Seed.order "2", ⟨0, 0⟩)]
        ⟨Seed.opened, .new {}⟩ = (results, shop) ∧
      ∃ (stored guest : CartSummary) (shop' : Shop Memory),
        (inMemory {} .byName).respond Seed.look ⟨1, 0⟩ shop =
          .ok (finished Seed.look (.ok (reply stored)), shop') ∧
        (inMemory {} .byName).respond Seed.askedElsewhere ⟨1, 0⟩ shop =
          .ok (finished Seed.askedElsewhere (.ok (reply guest)), shop) ∧
        guest.unnumbered = { stored.unnumbered with cartId := none } := by
  obtain ⟨response, shop, cart, hfirst, hcart, hunits⟩ : ∃ response shop cart,
      (inMemory {} .byName).respond (Seed.order "2") ⟨0, 0⟩ ⟨Seed.opened, .new {}⟩ =
        .ok (response, shop) ∧ shop.store.carts.get? "ana" = some cart ∧ cart.units = [⟨1, 2⟩] :=
    ⟨_, _, _, (respond_cartChange (Seed.cartChange?_order Seed.body_order_two) _).trans rfl, rfl,
      rfl⟩
  have hrun : (inMemory {} .byName).handleAll [(Seed.order "2", ⟨0, 0⟩)] ⟨Seed.opened, .new {}⟩ =
      ([.ok response], shop) := by
    rw [handleAll_cons, handle_of_ok hfirst]
    rfl
  have hsummary : (inMemory {} .byName).admitted? Seed.look ⟨1, 0⟩ = some (.summary, "ana") := by
    decide +kernel
  have hguest : (inMemory {} .byName).admitted? Seed.askedElsewhere ⟨1, 0⟩ =
      some (.guestPrice, "") := by decide +kernel
  obtain ⟨hfits, -, halike⟩ := handleAll_guest_prices Seed.holding_opened hrun hcart hsummary hguest
    (by rw [hunits]; exact Seed.body_askedElsewhere)
  obtain ⟨stored, guest, shop', hlook, hask, -, hsame⟩ := halike (hfits (by simp))
  refine ⟨[.ok response], shop, hrun, stored, guest, shop', hlook, hask, hsame (.inr (.inr ?_))⟩
  intro q hq staff
  rw [List.mem_singleton] at hq
  rw [hq]
  exact fun h => by cases (Seed.admitted?_order Memory.store {} "2" ⟨0, 0⟩).symm.trans h

end VolumePricing
