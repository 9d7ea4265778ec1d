import VolumePricing.Proofs.Service.Handling
import VolumePricing.Proofs.Service.InMemory

/-!
# Lines and their products

A line shows a product as it was when it was put into the cart. Products are
never taken from the shelf, and only their stored prices change. So every line
goes on standing for a product on the shelf, of the same cost, and until prices
are renewed of the same stored price.
-/

namespace VolumePricing

open VolumePricing.Action
open Http (Request Response)

/-- The line shows the product, its stored prices aside. -/
structure CartLine.Shows (line : CartLine) (p : Product) : Prop where
  productName : line.productName = p.name
  variantName : line.variantName = ""
  cost : line.cost = p.cost
  imageUrl : line.imageUrl = p.imageUrl

/-- A property of a line and its product that a new line has and no quantity changes. -/
structure CartLine.Holds (R : CartLine → Product → Prop) : Prop where
  newLine : ∀ id p q, R (CartTable.newLine id p q) p
  quantity : ∀ {line p} q, R line p → R { line with quantity := q } p

/-- Every line in a cart has its product on the shelf, and the two have the property. -/
def Memory.EachLine (R : CartLine → Product → Prop) (m : Memory) : Prop :=
  ∀ user, ∀ line ∈ m.carts.linesOf user,
    ∃ p, m.products.get? line.productId = some p ∧ R line p

namespace ProductShelf

/-- New prices are those of one product. -/
theorem get?_updatePrices {s s' : ProductShelf} {id : UInt32} {prices : ProductPrices}
    (h : s.updatePrices id prices = .ok s') (other : UInt32) :
    s'.get? other = if other = id then (s.get? id).map (·.setPrices prices) else s.get? other := by
  unfold updatePrices at h
  cases hget : s.get? id with
  | none => simp [hget] at h
  | some p =>
    rw [hget] at h
    cases h
    split
    · rename_i hid
      subst hid
      exact (find?_modifyFirst (p := fun p : Product => p.id == other)
        (f := fun p => p.setPrices prices) (fun _ => rfl) s.products).trans (congrArg _ hget)
    · rename_i hne
      refine find?_modifyFirst_of_disjoint (fun p hp => ?_) s.products
      have hpid : p.id = id := by simpa using hp
      simp [hpid, Ne.symm hne]

end ProductShelf

namespace Memory

variable {R : CartLine → Product → Prop} (hR : CartLine.Holds R)

/-- The line of some quantity and the same product. -/
theorem EachLine.exists_of_quantity {R : CartLine → Product → Prop} (hR : CartLine.Holds R)
    {shelf : ProductShelf} {items : List CartLine} {p : CartLine → Bool} (q : Int64)
    (h : ∀ line ∈ items, ∃ p, shelf.get? line.productId = some p ∧ R line p) :
    ∀ line ∈ modifyFirst p (fun l => { l with quantity := q }) items,
      ∃ p, shelf.get? line.productId = some p ∧ R line p := by
  intro line hline
  rcases mem_modifyFirst hline with hold | ⟨old, hold, -, rfl⟩
  · exact h line hold
  · obtain ⟨product, hproduct, hline⟩ := h old hold
    exact ⟨product, hproduct, hR.quantity q hline⟩

/-- A cart whose lines have their products may take the place of the one before it. -/
theorem EachLine.then_put {m : Memory} {user : String} {cart : Cart} {carts : CartTable}
    (h : m.EachLine R)
    (hput : ∀ other, carts.get? other = if other = user then some cart else m.carts.get? other)
    (hcart : ∀ line ∈ cart.items, ∃ p, m.products.get? line.productId = some p ∧ R line p) :
    EachLine R { m with carts } := by
  intro other line hline
  rw [CartTable.linesOf_of_put (hput other)] at hline
  split at hline
  · exact hcart line hline
  · exact h other line hline

include hR in
theorem EachLine.addItem {m : Memory} {user : String} {product : Product} {quantity : Int64}
    {cart : Cart} {carts : CartTable} (h : m.EachLine R)
    (hproduct : m.products.get? product.id = some product)
    (hadd : m.carts.addItem user product quantity = .ok (cart, carts)) :
    EachLine R { m with carts } := by
  obtain ⟨items, id, hto, -, hitems, hput⟩ := CartTable.addItem_eq_ok hadd
  refine h.then_put hput fun line hline => ?_
  rw [hitems] at hline
  have hmem := List.mem_of_mem_filter hline
  rcases CartTable.addTo_cases hto with ⟨_, sum, -, -, -, rfl⟩ | ⟨-, -, rfl⟩
  · exact exists_of_quantity hR sum (h user) line hmem
  · rcases List.mem_append.mp hmem with hold | hnew
    · exact h user line hold
    · rw [List.mem_singleton.mp hnew]
      exact ⟨product, hproduct, hR.newLine _ _ _⟩

include hR in
theorem EachLine.setQuantity {m : Memory} {user : String} {productId : UInt32} {quantity : Int64}
    {cart : Cart} {carts : CartTable} (h : m.EachLine R)
    (hset : m.carts.setQuantity user productId quantity = .ok (cart, carts)) :
    EachLine R { m with carts } := by
  obtain ⟨-, -, hitems, hput⟩ := CartTable.setQuantity_eq_ok hset
  refine h.then_put hput fun line hline => ?_
  rw [hitems] at hline
  unfold CartTable.setIn at hline
  split at hline
  · exact h user line (List.mem_of_mem_eraseP hline)
  · exact exists_of_quantity hR quantity (h user) line hline

/-- New prices leave a property in which the stored prices have no part. -/
theorem EachLine.updatePrices {m : Memory} {id : UInt32} {prices : ProductPrices}
    {products : ProductShelf} (hrenew : ∀ line p, R line p → R line (p.setPrices prices))
    (h : m.EachLine R) (hprices : m.products.updatePrices id prices = .ok products) :
    EachLine R { m with products } := by
  intro user line hline
  obtain ⟨p, hp, hR⟩ := h user line hline
  rw [ProductShelf.get?_updatePrices hprices]
  split
  · rename_i hid
    exact ⟨p.setPrices prices, by rw [← hid, hp]; rfl, hrenew line p hR⟩
  · exact ⟨p, hp, hR⟩

end Memory

namespace Service

variable {settings : HubSettings} {authority : Authority} {r : Request} {moment : Moment}
  {shop shop' : Shop Memory} {user : String} {R : CartLine → Product → Prop}
  (hR : CartLine.Holds R)
include hR

theorem eachLine_write (c : CartChange) :
    Keeps (fun shop : Shop Memory => shop.store.EachLine R)
      ((inMemory settings authority).write user c) := by
  intro shop result shop' hshop h
  rcases write_cases h with rfl | ⟨cart, carts, rfl, ⟨p, quantity, hp, hadd⟩ | ⟨_, quantity, hset⟩⟩
  · exact hshop
  · exact hshop.addItem hR hp hadd
  · exact hshop.setQuantity hR hset

/-- Only where prices are renewed have the stored prices a part in the matter. -/
theorem eachLine_respond
    (hrenew : ∀ user, (inMemory settings authority).admitted? r moment = some (.recalculate, user) →
      ∀ line p prices, R line p → R line (p.setPrices prices))
    (hshop : shop.store.EachLine R) {response : Response}
    (h : (inMemory settings authority).respond r moment shop = .ok (response, shop')) :
    shop'.store.EachLine R := by
  have hcareful : (inMemory settings authority).store.Careful := Memory.store_careful
  let Each : ProductShelf → CartTable → Prop := fun products carts => ∀ user,
    ∀ line ∈ carts.linesOf user, ∃ p, products.get? line.productId = some p ∧ R line p
  refine keeps_respond (P := fun shop => shop.store.EachLine R) (fun endpoint user hadmitted => ?_)
    hshop h
  have hrefresh : Keeps (fun shop : Shop Memory => shop.store.EachLine R)
      ((inMemory settings authority).refresh user moment) :=
    keeps_refresh hcareful (Memory.EachLine R) user moment
  refine run_of_calls hcareful (robust_keeps _)
    (fun c _ => keeps_change (eachLine_write hR c) hrefresh) (fun _ => ?_) (fun _ => hrefresh)
  refine .of_kept (P := fun _ => Memory.EachLine R) (fun _ => Memory.keptByTierCalls Each) ?_
  rintro rfl - id prices
  refine Memory.keeps_change fun m a m' hm hc => ?_
  rcases hp : m.products.updatePrices id prices with e | products <;> rw [hp] at hc <;> cases hc
  exact hm.updatePrices (fun line p => hrenew user hadmitted line p prices) hp

/-- So it is where the request overflows. -/
theorem eachLine_handle
    (hrenew : ∀ user, (inMemory settings authority).admitted? r moment = some (.recalculate, user) →
      ∀ line p prices, R line p → R line (p.setPrices prices))
    (hshop : shop.store.EachLine R) :
    ((inMemory settings authority).handle r moment shop).2.store.EachLine R := by
  apply handle_leads (P := fun shop => shop.store.EachLine R)
  · intro response shop' h
    exact eachLine_respond hR hrenew hshop h
  · intro o shop' _ h
    cases h with
    | untouched => exact hshop
    | written hasked hwrite => exact eachLine_write hR _ _ _ _ hshop hwrite
    | opened hasked =>
      intro user line hline
      rw [CartTable.linesOf_opened] at hline
      exact hshop user line hline
    | numbered hadmitted => exact hshop

theorem eachLine_handleAll {tiers : List PriceTier} {products : List Product} {m₀ : Memory}
    {requests : List (Request × Moment)}
    (hrenew : ∀ q ∈ requests, ∀ user,
      (inMemory settings authority).admitted? q.1 q.2 = some (.recalculate, user) →
      ∀ line p prices, R line p → R line (p.setPrices prices))
    (hopen : Memory.holding tiers products = .ok m₀) :
    ((inMemory settings authority).handleAll requests ⟨m₀, .new settings⟩).2.store.EachLine R := by
  have hopened : m₀.EachLine R := by
    intro user line hline
    rw [(Memory.holding_eq_ok hopen).2.2] at hline
    cases hline
  exact handleAll_keeps (P := fun shop : Shop Memory => shop.store.EachLine R)
    (fun q hq shop hshop => eachLine_handle hR (hrenew q hq) hshop) hopened

end Service

end VolumePricing
