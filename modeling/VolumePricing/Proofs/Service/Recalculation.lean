import VolumePricing.Proofs.Service.Handling
import VolumePricing.Proofs.Store.Shelf

/-!
# Renewing the prices of all products

Staff may have the stored prices of all products renewed. The products are read
once, and one after another is written back to the shelf that they were read
from. A product that cannot be written is counted and passed over. Whatever
fails, doing it again changes nothing more: the new prices depend on costs and
tiers alone.
-/

namespace VolumePricing

open VolumePricing.Action
open Http (Request Response)

/-- The outage keeps the prices of the product as they are. -/
def Outage.freezes (o : Outage) (p : Product) : Bool := o.hits [.updatePrices, .updatePricesOf p.id]

namespace Product

/-- The second product is the first with these three prices stored, and in all else the same. -/
structure Renewed (prices : ProductPrices) (p p' : Product) : Prop where
  wholesale : p'.wholesale = prices.wholesale
  discount1 : p'.discount1 = prices.discount1
  discount2 : p'.discount2 = prices.discount2
  id : p'.id = p.id
  name : p'.name = p.name
  cost : p'.cost = p.cost
  imageUrl : p'.imageUrl = p.imageUrl

/-- What renewing comes to for one product: the prices of its cost, or nothing at all where they
cannot be written. -/
structure RenewedDuring (o : Outage) (tiers : List PriceTier) (p p' : Product) : Prop where
  written : o.freezes p = false → p.Renewed (productPrices p.cost tiers) p'
  kept : o.freezes p = true → p' = p

/-- Prices say everything about a renewed product that its old state does not. -/
theorem Renewed.eq {prices : ProductPrices} {p p' : Product} (h : p.Renewed prices p') :
    p' = ⟨p.id, p.name, p.cost, prices.wholesale, prices.discount1, prices.discount2,
      p.imageUrl⟩ := by
  cases p'
  obtain ⟨hwholesale, hdiscount1, hdiscount2, hid, hname, hcost, himage⟩ := h
  simp only at *
  subst hwholesale hdiscount1 hdiscount2 hid hname hcost himage
  rfl

variable (o : Outage) (tiers : List PriceTier) (p : Product)

/-- The product with the prices that the tiers give it, if they can be written. -/
def repriced : Product :=
  if o.freezes p then p else p.setPrices (productPrices p.cost tiers)

theorem renewedDuring_repriced : p.RenewedDuring o tiers (p.repriced o tiers) where
  written hwritten := by
    simp only [repriced, hwritten, Bool.false_eq_true, if_false]
    exact ⟨rfl, rfl, rfl, rfl, rfl, rfl, rfl⟩
  kept hkept := by simp only [repriced, hkept, if_true]

@[simp] theorem id_repriced : (p.repriced o tiers).id = p.id := by
  unfold repriced
  split <;> rfl

@[simp] theorem freezes_repriced : o.freezes (p.repriced o tiers) = o.freezes p := by
  unfold Outage.freezes
  rw [id_repriced]

/-- New prices have no part in the prices that come after them. -/
theorem repriced_repriced : (p.repriced o tiers).repriced o tiers = p.repriced o tiers := by
  unfold repriced
  by_cases h : o.freezes p = true
  · simp [h]
  · have hset : o.freezes (p.setPrices (productPrices p.cost tiers)) = false := by
      simpa [Outage.freezes] using h
    simp only [h, hset, Bool.false_eq_true, if_false]
    rfl

end Product

/-- The products still stand one by one as they stood, each as renewing has left it, and the other
tables are the same. -/
structure Memory.Renewed (o : Outage) (m m' : Memory) : Prop where
  products : List.Forall₂ (Product.RenewedDuring o (m.tiers.list false)) m.products.products
    m'.products.products
  tiers : m'.tiers = m.tiers
  carts : m'.carts = m.carts

namespace Memory

variable (o : Outage) (m : Memory)

/-- The tables once the prices of all products are renewed, as far as they can be. -/
def repriced : Memory :=
  { m with products := ⟨m.products.products.map (·.repriced o (m.tiers.list false))⟩ }

/-- What is told of renewing the prices. -/
def recalculation : Recalculation where
  totalProducts := m.products.products.length
  updated := m.products.products.countP (!o.freezes ·)
  errors := m.products.products.countP o.freezes
  tiersApplied := (m.tiers.list false).length

theorem renewed_repriced : m.Renewed o (m.repriced o) where
  products := by
    apply List.forall₂_map_right_iff.mpr
    apply List.forall₂_same.mpr
    intro p _
    exact p.renewedDuring_repriced o (m.tiers.list false)
  tiers := rfl
  carts := rfl

theorem repriced_repriced : (m.repriced o).repriced o = m.repriced o := by
  unfold repriced
  simp only [List.map_map, Function.comp_def, Product.repriced_repriced]

theorem recalculation_repriced : (m.repriced o).recalculation o = m.recalculation o := by
  unfold recalculation repriced
  simp only [List.length_map, List.countP_map, Function.comp_def, Product.freezes_repriced]

theorem sorted_repriced (h : m.products.Sorted) : (m.repriced o).products.Sorted := by
  unfold ProductShelf.Sorted repriced at *
  simpa only [List.map_map, Function.comp_def, Product.id_repriced] using h

end Memory

/-- Every product is counted once, by what became of it, and every active tier is applied. -/
structure Recalculation.Accounts (result : Recalculation) (o : Outage) (m : Memory) : Prop where
  totalProducts : result.totalProducts = m.products.products.length
  outcomes : result.updated + result.errors = result.totalProducts
  errors : result.errors = m.products.products.countP o.freezes
  tiersApplied : result.tiersApplied = m.tiers.tiers.countP (·.active)

theorem Memory.accounts_recalculation (o : Outage) (m : Memory) :
    (m.recalculation o).Accounts o m where
  totalProducts := rfl
  outcomes := by
    have hsplit := List.length_eq_countP_add_countP o.freezes (l := m.products.products)
    simp only [recalculation]
    simp only [Bool.not_eq_true, Bool.decide_eq_false] at hsplit
    omega
  errors := rfl
  tiersApplied := by
    simp [recalculation, TierTable.list, List.countP_eq_length_filter]

namespace Service

variable {settings : HubSettings} {authority : Authority} {o : Outage} {r : Request}
  {moment : Moment} {shop shop' : Shop Memory} {tiers : List PriceTier} {m : Memory}

/-- One turn of the loop: the product is renewed where it stands, or passed over. -/
theorem run_repriceProduct {done rest : List Product} {p : Product}
    (hshelf : m.products = ⟨done ++ p :: rest⟩) (hsorted : m.products.Sorted) :
    (during settings authority o).repriceProduct tiers p m =
      .ok (.ok (!o.freezes p),
        { m with products := ⟨done ++ p.repriced o tiers :: rest⟩ }) := by
  have hupdate : (during settings authority o).store.updatePrices p.id
      (productPrices p.cost tiers) m =
      if o.freezes p then .ok (.error o.failure, m)
      else .ok (.ok (), { m with products := ⟨done ++ p.repriced o tiers :: rest⟩ }) := by
    refine (o.run_guard _ _ m).trans ?_
    change (if o.freezes p = true then _ else _) = _
    by_cases hfrozen : o.freezes p = true
    · rw [if_pos hfrozen, if_pos hfrozen]
    · rw [hshelf] at hsorted
      rw [if_neg hfrozen, if_neg hfrozen, Product.repriced, if_neg hfrozen]
      change Memory.change _ m = _
      rw [Memory.run_change, hshelf, ProductShelf.updatePrices_between hsorted]
      rfl
  rw [repriceProduct, run_tryCatch, run_bind, hupdate]
  by_cases hfrozen : o.freezes p = true
  · rw [if_pos hfrozen, Product.repriced, if_pos hfrozen, hfrozen, ← hshelf]
    rfl
  · rw [if_neg hfrozen, Bool.eq_false_iff.mpr hfrozen]
    rfl

/-- The whole loop: `done` are the products that had their turn, and `rest` those that were read
with them and still stand on the shelf as they were. -/
theorem run_repriceAll {done rest : List Product} (hshelf : m.products = ⟨done ++ rest⟩)
    (hsorted : m.products.Sorted) :
    rest.mapM ((during settings authority o).repriceProduct tiers) m =
      .ok (.ok (rest.map (!o.freezes ·)),
        { m with products := ⟨done ++ rest.map (·.repriced o tiers)⟩ }) := by
  induction rest generalizing done m with
  | nil =>
    simp only [List.map_nil, ← hshelf]
    rfl
  | cons p rest ih =>
    have hturn : (during settings authority o).repriceProduct tiers p m = .ok (.ok (!o.freezes p),
        { m with products := ⟨done ++ p.repriced o tiers :: rest⟩ }) :=
      run_repriceProduct hshelf hsorted
    have hsorted' : ProductShelf.Sorted ⟨done ++ p.repriced o tiers :: rest⟩ := by
      rw [hshelf] at hsorted
      unfold ProductShelf.Sorted at hsorted ⊢
      simpa using hsorted
    have hrest := ih (m := { m with products := ⟨done ++ p.repriced o tiers :: rest⟩ })
      (congrArg ProductShelf.mk (List.append_cons done (p.repriced o tiers) rest)) hsorted'
    rw [List.mapM_cons, run_bind, hturn]
    simp only [run_bind, hrest, run_pure]
    simp

/-- Renewing writes to the shelf alone, and is never refused once the products are read. -/
theorem run_recalculate (hsorted : shop.store.products.Sorted)
    (hactive : shop.store.tiers.list false ≠ []) (htiers : o.hits [.listTiers] = false)
    (hproducts : o.hits [.listProducts] = false) :
    (during settings authority o).recalculate shop =
      .ok (.ok (shop.store.recalculation o), { shop with store := shop.store.repriced o }) := by
  have hlist : (during settings authority o).listTiers false shop =
      .ok (.ok (shop.store.tiers.list false), shop) := by
    rw [listTiers, run_call]
    change ((o.guard _ _ : StoreAction Memory _) shop.store).map _ = _
    rw [Outage.run_guard, htiers]
    rfl
  have hread : call (during settings authority o).store.listProducts shop =
      .ok (.ok shop.store.products.products, shop) := by
    rw [run_call]
    change ((o.guard _ _ : StoreAction Memory _) shop.store).map _ = _
    rw [Outage.run_guard, hproducts]
    rfl
  have hloop : call (shop.store.products.products.mapM ((during settings authority o).repriceProduct
        (shop.store.tiers.list false))) shop =
      .ok (.ok (shop.store.products.products.map (!o.freezes ·)),
        { shop with store := shop.store.repriced o }) := by
    have hshelf : shop.store.products = ⟨[] ++ shop.store.products.products⟩ := rfl
    rw [run_call, run_repriceAll hshelf hsorted]
    rfl
  have hsome : (shop.store.tiers.list false).isEmpty = false :=
    List.isEmpty_eq_false_iff.mpr hactive
  simp only [recalculate, run_bind, hlist, hsome, Bool.false_eq_true, if_false, hread, hloop,
    run_pure]
  simp [Memory.recalculation, List.count_eq_countP, List.countP_map, Function.comp_def]

/-- No request puts a product out of its place. -/
theorem sorted_respond (hshop : shop.store.products.Sorted) {response : Response}
    (h : (during settings authority o).respond r moment shop = .ok (response, shop')) :
    shop'.store.products.Sorted := by
  refine keeps_respond (P := fun shop => shop.store.products.Sorted) (fun endpoint user _ => ?_)
    hshop h
  refine run_of_calls during_careful (robust_keeps _)
    (fun c _ => keeps_change_tables (fun _ products => products.Sorted) c)
    (fun _ => .of_kept (P := fun _ (m : Memory) => m.products.Sorted)
      (fun _ => (Memory.keptByTierCalls fun products _ => products.Sorted).during o)
      fun _ _ id prices => o.keeps_guard _ (Memory.keeps_change fun m a m' hm hc => ?_))
    (fun _ => keeps_refresh during_careful (fun m => m.products.Sorted) user moment)
  rcases hp : m.products.updatePrices id prices with e | products <;> rw [hp] at hc <;> cases hc
  exact ProductShelf.sorted_updatePrices hm hp

/-- The shop has come to this from a new one, with requests that were answered during any outages
and requests that overflowed. Of those nothing is said but that no product and nothing in the hub
was changed by them. -/
inductive Reached (settings : HubSettings) (authority : Authority) : Shop Memory → Prop
  | opened {tiers : List PriceTier} {products : List Product} {m : Memory}
      (hopen : Memory.holding tiers products = .ok m) :
      Reached settings authority ⟨m, .new settings⟩
  | answered {shop shop' : Shop Memory} {o : Outage} {r : Request} {moment : Moment}
      {response : Response} (hreached : Reached settings authority shop)
      (h : (during settings authority o).respond r moment shop = .ok (response, shop')) :
      Reached settings authority shop'
  | overflowed {shop : Shop Memory} {o : Outage} {r : Request} {moment : Moment} {e : Overflow}
      (hreached : Reached settings authority shop)
      (h : (during settings authority o).respond r moment shop = .error e)
      (tiers : TierTable) (carts : CartTable) :
      Reached settings authority ⟨{ shop.store with tiers, carts }, shop.hub⟩

theorem Reached.sorted (hreached : Reached settings authority shop) :
    shop.store.products.Sorted := by
  induction hreached with
  | opened hopen =>
    rw [(Memory.holding_eq_ok hopen).2.1]
    exact ProductShelf.sorted_ofProducts _
  | answered _ h ih => exact sorted_respond ih h
  | overflowed _ _ _ _ ih => exact ih

/-- Whatever becomes of a request, the shop after it is reached. -/
theorem Reached.handled (hreached : Reached settings authority shop) (o : Outage) (r : Request)
    (moment : Moment) :
    Reached settings authority ((during settings authority o).handle r moment shop).2 := by
  apply handle_leads
  · intro response shop' h
    exact hreached.answered h
  · intro e shop' hoverflow h
    have hhub : shop'.hub = shop.hub := h.hub_eq
    have hproducts : shop'.store.products = shop.store.products := h.products_eq
    obtain ⟨⟨tiers, products, carts⟩, hub⟩ := shop'
    simp only at hhub hproducts
    subst hhub hproducts
    exact hreached.overflowed hoverflow tiers carts

theorem reached_handleAll {tiers : List PriceTier} {products : List Product} {m₀ : Memory}
    (hopen : Memory.holding tiers products = .ok m₀) (o : Outage)
    (requests : List (Request × Moment)) :
    Reached settings authority
      ((during settings authority o).handleAll requests ⟨m₀, .new settings⟩).2 :=
  handleAll_keeps (fun q _ _ hreached => hreached.handled o q.1 q.2) (.opened hopen)

theorem respond_of_sorted {staff : String} (hsorted : shop.store.products.Sorted)
    (hactive : ∃ t ∈ shop.store.tiers.tiers, t.active = true)
    (htiers : o.hits [.listTiers] = false) (hproducts : o.hits [.listProducts] = false)
    (hadmitted : (during settings authority o).admitted? r moment = some (.recalculate, staff)) :
    (during settings authority o).respond r moment shop =
      .ok (finished r (.ok (reply (shop.store.recalculation o))),
        { shop with store := shop.store.repriced o }) := by
  have hlisted : shop.store.tiers.list false ≠ [] := by
    obtain ⟨t, ht, hactive⟩ := hactive
    have hmem : t ∈ shop.store.tiers.list false := by simp [TierTable.list, ht, hactive]
    exact List.ne_nil_of_mem hmem
  rw [respond_admitted hadmitted, run, run_bind, run_recalculate hsorted hlisted htiers hproducts]
  rfl

/-- Where a tier is active, and tiers and products can be listed, renewing the prices is answered
with an account of all products. Those that could be written have the prices of their cost in the
three columns, and nothing else is changed. The same again, while the same fails, changes nothing
and is answered with the same account. -/
theorem respond_recalculate {staff : String} (hreached : Reached settings authority shop)
    (hactive : ∃ t ∈ shop.store.tiers.tiers, t.active = true)
    (htiers : o.hits [.listTiers] = false) (hproducts : o.hits [.listProducts] = false)
    (hadmitted : (during settings authority o).admitted? r moment = some (.recalculate, staff)) :
    ∃ (result : Recalculation) (shop' : Shop Memory),
      result.Accounts o shop.store ∧ shop.store.Renewed o shop'.store ∧ shop'.hub = shop.hub ∧
      (during settings authority o).respond r moment shop =
        .ok (finished r (.ok (reply result)), shop') ∧
      (finished r (.ok (reply result))).status = 200 ∧
      ∀ r' moment' staff',
        (during settings authority o).admitted? r' moment' = some (.recalculate, staff') →
        (during settings authority o).respond r' moment' shop' =
          .ok (finished r' (.ok (reply result)), shop') := by
  have hsorted := hreached.sorted
  refine ⟨shop.store.recalculation o, ⟨shop.store.repriced o, shop.hub⟩,
    Memory.accounts_recalculation o shop.store, Memory.renewed_repriced o shop.store, rfl,
    respond_of_sorted hsorted hactive htiers hproducts hadmitted, finished_status r _, ?_⟩
  intro r' moment' staff' hadmitted'
  have hagain : (during settings authority o).respond r' moment'
      ⟨shop.store.repriced o, shop.hub⟩ = _ :=
    respond_of_sorted (Memory.sorted_repriced o shop.store hsorted) hactive htiers hproducts
      hadmitted'
  rw [Memory.recalculation_repriced, Memory.repriced_repriced] at hagain
  exact hagain

end Service

namespace Seed

/-- Two products whose prices were never stored. -/
def unpriced : List Product :=
  [{ id := 1, name := "Linen shirt", cost := 4000.0 },
   { id := 2, name := "Denim jacket", cost := 12000.0 }]

/-- Staff have the stored prices renewed. -/
def renewing : Request where
  method := "POST"
  target := "/settings/price-tiers/recalculate-products"
  headers := [("authorization", "Bearer ADMIN")]

/-- The prices of one product cannot be written. -/
def frozenJacket : Outage := ⟨[.updatePricesOf 2], "offline"⟩

end Seed

/-- The shirt gets the prices of its cost, and the jacket stays without. -/
theorem Service.respond_recalculate_unpriced :
    ∃ (m₀ : Memory) (result : Recalculation) (shop' : Shop Memory),
      Memory.holding Seed.tiers Seed.unpriced = .ok m₀ ∧
      (during {} .byRole Seed.frozenJacket).respond Seed.renewing ⟨0, 0⟩ ⟨m₀, .new {}⟩ =
        .ok (finished Seed.renewing (.ok (reply result)), shop') ∧
      result = ⟨2, 1, 1, 3⟩ ∧
      shop'.store.products.products =
        [⟨1, "Linen shirt", 4000.0, 10000.0, 9000.0, 7000.0, ""⟩,
         ⟨2, "Denim jacket", 12000.0, 0.0, 0.0, 0.0, ""⟩] := by
  obtain ⟨m₀, hopen, hactive, hstock, hcounts, hprices⟩ :
      ∃ m₀, Memory.holding Seed.tiers Seed.unpriced = .ok m₀ ∧
        (∃ t ∈ m₀.tiers.tiers, t.active = true) ∧ m₀.products.products = Seed.unpriced ∧
        (m₀.products.products.length = 2 ∧
          m₀.products.products.countP Seed.frozenJacket.freezes = 1 ∧
          m₀.tiers.tiers.countP (·.active) = 3) ∧
        productPrices 4000.0 (m₀.tiers.list false) = ⟨10000.0, 9000.0, 7000.0⟩ :=
    ⟨_, rfl, ⟨_, List.mem_cons_self, rfl⟩, rfl, ⟨rfl, rfl, rfl⟩, by decide +kernel⟩
  have hadmitted : (during {} .byRole Seed.frozenJacket).admitted? Seed.renewing ⟨0, 0⟩ =
      some (.recalculate, "ADMIN") := by decide +kernel
  obtain ⟨result, shop', haccounts, hrenewed, -, hrespond, -, -⟩ :=
    respond_recalculate (.opened hopen) hactive (by decide) (by decide) hadmitted
  refine ⟨m₀, result, shop', hopen, hrespond, ?_, ?_⟩
  · obtain ⟨htotal, houtcomes, herrors, happlied⟩ := haccounts
    obtain ⟨hlength, hfrozen, htiers⟩ := hcounts
    cases result
    simp only [Recalculation.mk.injEq] at *
    omega
  · have hproducts := hrenewed.products
    rw [hstock] at hproducts
    obtain ⟨shirt, others, hshirt, hothers, hshelf⟩ := List.forall₂_cons_left_iff.mp hproducts
    obtain ⟨jacket, rest, hjacket, hrest, rfl⟩ := List.forall₂_cons_left_iff.mp hothers
    rw [hshelf, (hshirt.written (by decide)).eq, hjacket.kept (by decide),
      List.forall₂_nil_left_iff.mp hrest, hprices]

end VolumePricing
