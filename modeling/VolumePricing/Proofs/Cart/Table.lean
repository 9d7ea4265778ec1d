import VolumePricing.Proofs.FirstMatch
import VolumePricing.Proofs.Words
import VolumePricing.Store.CartTable

/-!
# What the calls on carts do

A call on the table of carts replaces the cart of one shopper, and every other
cart stays as it is. What the new cart holds is said in units: the quantities
of its lines as integers, and their sum.
-/

namespace VolumePricing

open Checked

namespace CartTable

variable {s s' t : CartTable} {user : String} {cart opened : Cart} {product : Product}
  {quantity : Int64} {productId lastItemId id : UInt32} {items items' : List CartLine}

/-- The lines of the shopper's cart; none where there is no cart. -/
def linesOf (s : CartTable) (user : String) : List CartLine :=
  ((s.get? user).map (·.items)).getD []

theorem userId_of_get? (h : s.get? user = some cart) : cart.userId = user := by
  simpa using List.find?_some h

/-- A cart that is put in the table is found by its shopper, and hides no other. -/
theorem get?_put (s : CartTable) (cart : Cart) (user : String) :
    (s.put cart).get? user = if user = cart.userId then some cart else s.get? user := by
  unfold put
  split
  · rename_i hsome
    by_cases hu : user = cart.userId
    · subst hu
      have hfind := find?_modifyFirst_of_imp (p := fun c : Cart => c.userId == cart.userId)
        (f := fun _ => cart) (fun _ _ => beq_self_eq_true cart.userId) s.carts
      obtain ⟨old, hold⟩ := Option.isSome_iff_exists.mp hsome
      rw [show s.carts.find? (fun c => c.userId == cart.userId) = some old from hold] at hfind
      rw [if_pos rfl]
      exact hfind
    · rw [if_neg hu]
      refine find?_modifyFirst_of_disjoint (fun c hc => ?_) s.carts
      have hcu : c.userId = cart.userId := by simpa using hc
      constructor
      · simpa [hcu] using Ne.symm hu
      · simpa using Ne.symm hu
  · rename_i hnone
    unfold get?
    rw [List.find?_append]
    by_cases hu : user = cart.userId
    · subst hu
      have hold : s.carts.find? (fun c => c.userId == cart.userId) = none := by
        simpa [get?] using hnone
      simp [hold]
    · have hne : (cart.userId == user) = false := by simpa using Ne.symm hu
      simp [hu, hne]

theorem openCart_of_some (h : s.get? user = some cart) : s.openCart user = .ok (cart, s) := by
  unfold openCart
  rw [h]

theorem openCart_of_none (h : s.get? user = none) :
    s.openCart user =
      (addUInt32 s.lastCartId 1).map fun id => (⟨id, user, []⟩, ⟨s.carts, id, s.lastItemId⟩) := by
  unfold openCart
  rw [h]
  cases addUInt32 s.lastCartId 1 <;> rfl

/-- An open cart is the one in the table, or a new one with the next number. -/
theorem openCart_cases (h : s.openCart user = .ok (opened, t)) :
    (s.get? user = some opened ∧ t = s) ∨
      s.get? user = none ∧ ∃ id, addUInt32 s.lastCartId 1 = .ok id ∧ opened = ⟨id, user, []⟩ ∧
        t = ⟨s.carts, id, s.lastItemId⟩ := by
  cases hget : s.get? user with
  | some old =>
    rw [openCart_of_some hget] at h
    cases h
    exact Or.inl ⟨rfl, rfl⟩
  | none =>
    rw [openCart_of_none hget] at h
    cases hid : addUInt32 s.lastCartId 1 with
    | error o =>
      rw [hid] at h
      cases h
    | ok id =>
      rw [hid] at h
      cases h
      exact Or.inr ⟨rfl, id, rfl, rfl, rfl⟩

/-- An open cart is the shopper's, and has the lines that the shopper had. -/
theorem openCart_eq_ok (h : s.openCart user = .ok (cart, s')) :
    cart.userId = user ∧ s'.carts = s.carts ∧ s'.lastItemId = s.lastItemId ∧
      cart.items = s.linesOf user := by
  unfold linesOf
  obtain ⟨hget, rfl⟩ | ⟨hget, id, -, rfl, rfl⟩ := openCart_cases h
  · rw [hget]
    exact ⟨userId_of_get? hget, rfl, rfl, rfl⟩
  · rw [hget]
    exact ⟨rfl, rfl, rfl, rfl⟩

/-- An open cart has the number that it had, or the next one. -/
theorem openCart_id (h : s.openCart user = .ok (opened, t)) :
    (s.get? user = some opened ∧ t = s) ∨
      s.get? user = none ∧ opened.id.toNat = s.lastCartId.toNat + 1 ∧ t.lastCartId = opened.id := by
  obtain hold | ⟨hget, id, hid, rfl, rfl⟩ := openCart_cases h
  · exact Or.inl hold
  · exact Or.inr ⟨hget, addUInt32_eq_ok.mp hid, rfl⟩

theorem overflows_openCart :
    Overflows (s.openCart user) ↔
      s.get? user = none ∧ s.lastCartId.toNat + 1 = UInt32.size := by
  cases hget : s.get? user with
  | some old => simp [openCart_of_some hget]
  | none => simp [openCart_of_none hget, overflows_addUInt32_one]

/-- Units are added to the line of the product, or a line with the next number is put behind
the others. -/
theorem addTo_cases (h : addTo lastItemId items product quantity = .ok (items', id)) :
    (∃ line sum, items.find? (·.productId == product.id) = some line ∧
      addInt64 line.quantity quantity = .ok sum ∧ id = lastItemId ∧
      items' = modifyFirst (·.productId == product.id) (fun l => { l with quantity := sum }) items) ∨
    (items.find? (·.productId == product.id) = none ∧ addUInt32 lastItemId 1 = .ok id ∧
      items' = items ++ [newLine id product quantity]) := by
  unfold addTo at h
  cases hfind : items.find? (·.productId == product.id) with
  | some line =>
    rw [hfind] at h
    cases hsum : addInt64 line.quantity quantity with
    | error o => simp [hsum, bind, Except.bind] at h
    | ok sum =>
      simp only [hsum, bind, Except.bind, pure, Except.pure, Except.ok.injEq, Prod.mk.injEq] at h
      exact Or.inl ⟨line, sum, rfl, hsum, h.2.symm, h.1.symm⟩
  | none =>
    rw [hfind] at h
    cases hid : addUInt32 lastItemId 1 with
    | error o => simp [hid, bind, Except.bind] at h
    | ok next =>
      simp only [hid, bind, Except.bind, pure, Except.pure, Except.ok.injEq, Prod.mk.injEq] at h
      obtain ⟨rfl, rfl⟩ := h
      exact Or.inr ⟨rfl, rfl, rfl⟩

/-- Adding puts the open cart with its new lines in the table. -/
theorem addItem_eq_put (h : s.addItem user product quantity = .ok (cart, s')) :
    ∃ opened t items id, s.openCart user = .ok (opened, t) ∧
      addTo s.lastItemId (s.linesOf user) product quantity = .ok (items, id) ∧
      cart = { opened with items := items.filter (0 < ·.quantity) } ∧
      s' = ({ t with lastItemId := id }).put cart := by
  unfold addItem at h
  rcases hopen : s.openCart user with o | ⟨opened, t⟩
  · rw [hopen] at h
    cases h
  · obtain ⟨-, -, hlast, hitems⟩ := openCart_eq_ok hopen
    simp only [hopen, bind, Except.bind, hlast, hitems] at h
    rcases hadd : addTo s.lastItemId (s.linesOf user) product quantity with o | ⟨items, id⟩
    · rw [hadd] at h
      cases h
    · rw [hadd] at h
      cases h
      exact ⟨opened, t, items, id, rfl, rfl, rfl, rfl⟩

/-- A shopper's cart with units added, and the table with it. -/
theorem addItem_eq_ok (h : s.addItem user product quantity = .ok (cart, s')) :
    ∃ items id, addTo s.lastItemId (s.linesOf user) product quantity = .ok (items, id) ∧
      cart.userId = user ∧ cart.items = items.filter (0 < ·.quantity) ∧
      ∀ other, s'.get? other = if other = user then some cart else s.get? other := by
  obtain ⟨opened, t, items, id, hopen, hadd, rfl, rfl⟩ := addItem_eq_put h
  obtain ⟨huser, hcarts, -, -⟩ := openCart_eq_ok hopen
  refine ⟨items, id, hadd, huser, rfl, fun other => ?_⟩
  rw [get?_put, huser]
  split
  · rfl
  · simp [get?, hcarts]

theorem overflows_addItem :
    Overflows (s.addItem user product quantity) ↔
      Overflows (s.openCart user) ∨
        Overflows (addTo s.lastItemId (s.linesOf user) product quantity) := by
  unfold addItem
  rcases hopen : s.openCart user with o | ⟨opened, s₁⟩
  · simp [bind, Except.bind]
  · obtain ⟨-, -, hlast, hitems⟩ := openCart_eq_ok hopen
    simp only [bind, Except.bind, hlast, hitems]
    rcases addTo s.lastItemId (s.linesOf user) product quantity with o | ⟨items, id⟩ <;> simp

/-! ### What opening leaves -/

theorem opened_of_some (h : s.get? user = some cart) : s.opened user = s := by
  have huser : cart.userId = user := userId_of_get? h
  obtain ⟨front, back, hcarts, hmodified⟩ := exists_modifyFirst_eq (fun _ => cart) h
  have hsome : (s.get? cart.userId).isSome = true := by rw [huser, h, Option.isSome_some]
  rw [opened, openCart_of_some h]
  dsimp only
  rw [put, if_pos hsome, huser, hmodified, ← hcarts]

theorem put_of_none {front : List Cart} {lastCartId : UInt32}
    (hfront : front.find? (·.userId == cart.userId) = none) :
    put ⟨front, lastCartId, lastItemId⟩ cart = ⟨front ++ [cart], lastCartId, lastItemId⟩ := by
  have hnone : ¬ (get? ⟨front, lastCartId, lastItemId⟩ cart.userId).isSome = true := by
    simp [get?, hfront]
  rw [put, if_neg hnone]

theorem put_append {front : List Cart} {lastCartId : UInt32} {old : Cart}
    (hfront : front.find? (·.userId == cart.userId) = none) (hold : old.userId = cart.userId) :
    put ⟨front ++ [old], lastCartId, lastItemId⟩ cart =
      ⟨front ++ [cart], lastCartId, lastItemId⟩ := by
  have hold' : (old.userId == cart.userId) = true := by simpa using hold
  have hsome : (get? ⟨front ++ [old], lastCartId, lastItemId⟩ cart.userId).isSome = true := by
    simp [get?, List.find?_append, hfront, hold]
  have hmodified : modifyFirst (·.userId == cart.userId) (fun _ => cart) (front ++ [old]) =
      front ++ [cart] :=
    modifyFirst_append_cons hold' (by simpa using List.find?_eq_none.mp hfront)
  rw [put, if_pos hsome, hmodified]

theorem opened_of_none (h : s.get? user = none) (hid : addUInt32 s.lastCartId 1 = .ok id) :
    s.opened user = ⟨s.carts ++ [⟨id, user, []⟩], id, s.lastItemId⟩ := by
  rw [opened, openCart_of_none h, hid]
  exact put_of_none h

/-- Nobody else's cart is opened. -/
theorem get?_opened_of_ne {other : String} (h : other ≠ user) :
    (s.opened user).get? other = s.get? other := by
  unfold opened
  rcases hopen : s.openCart user with o | ⟨cart, t⟩
  · rfl
  · obtain ⟨huser, hcarts, -, -⟩ := openCart_eq_ok hopen
    dsimp only
    rw [get?_put, huser, if_neg h]
    simp [get?, hcarts]

/-- A cart that is opened has no line yet. -/
theorem linesOf_opened (s : CartTable) (user other : String) :
    (s.opened user).linesOf other = s.linesOf other := by
  by_cases hother : other = user
  · subst hother
    unfold opened
    rcases hopen : s.openCart other with o | ⟨cart, t⟩
    · rfl
    · obtain ⟨huser, -, -, hitems⟩ := openCart_eq_ok hopen
      have hget : (t.put cart).get? other = some cart := by rw [get?_put, huser, if_pos rfl]
      rw [← hitems]
      simp [linesOf, hget]
  · unfold linesOf
    rw [get?_opened_of_ne hother]

/-- Adding opens the cart and goes on from the table that is left so. -/
theorem addItem_eq_opened (s : CartTable) (user : String) (product : Product) (quantity : Int64) :
    s.addItem user product quantity =
      (do let _ ← s.openCart user; (s.opened user).addItem user product quantity) := by
  cases hget : s.get? user with
  | some cart =>
    rw [openCart_of_some hget, opened_of_some hget]
    rfl
  | none =>
    cases hid : addUInt32 s.lastCartId 1 with
    | error o =>
      rw [addItem, openCart_of_none hget, hid]
      rfl
    | ok id =>
      have hcarts : s.carts.find? (·.userId == user) = none := hget
      have hagain : get? ⟨s.carts ++ [⟨id, user, []⟩], id, s.lastItemId⟩ user =
          some ⟨id, user, []⟩ := by
        simp [get?, List.find?_append, hcarts]
      rw [opened_of_none hget hid, addItem, addItem, openCart_of_none hget, hid,
        openCart_of_some hagain]
      simp only [Except.map, bind, Except.bind]
      -- The new cart goes to the end of the table, or there takes the place of the empty one.
      rcases addTo s.lastItemId [] product quantity with o | ⟨items, lastItemId⟩
      · rfl
      · have hput : put ⟨s.carts, id, lastItemId⟩ ⟨id, user, items.filter (0 < ·.quantity)⟩ =
            ⟨s.carts ++ [⟨id, user, items.filter (0 < ·.quantity)⟩], id, lastItemId⟩ :=
          put_of_none hcarts
        have hover : put ⟨s.carts ++ [⟨id, user, []⟩], id, lastItemId⟩
            ⟨id, user, items.filter (0 < ·.quantity)⟩ =
            ⟨s.carts ++ [⟨id, user, items.filter (0 < ·.quantity)⟩], id, lastItemId⟩ :=
          put_append hcarts rfl
        simp only [hput, hover]

/-- Setting a quantity puts the shopper's cart with its new lines in the table. -/
theorem setQuantity_eq_put (h : s.setQuantity user productId quantity = .ok (cart, s')) :
    ∃ old, s.get? user = some old ∧ old.items.any (·.productId == productId) = true ∧
      cart = { old with items := setIn old.items productId quantity } ∧ s' = s.put cart := by
  unfold setQuantity at h
  split at h
  · cases h
  · rename_i old hget
    split at h
    · rename_i hany
      cases h
      exact ⟨old, hget, hany, rfl, rfl⟩
    · cases h

/-- A shopper's cart with one quantity set, and the table with it. -/
theorem setQuantity_eq_ok (h : s.setQuantity user productId quantity = .ok (cart, s')) :
    (s.linesOf user).any (·.productId == productId) = true ∧ cart.userId = user ∧
      cart.items = setIn (s.linesOf user) productId quantity ∧
      ∀ other, s'.get? other = if other = user then some cart else s.get? other := by
  obtain ⟨old, hget, hany, rfl, rfl⟩ := setQuantity_eq_put h
  have huser := userId_of_get? hget
  have hlines : s.linesOf user = old.items := by simp [linesOf, hget]
  refine ⟨hlines ▸ hany, huser, hlines ▸ rfl, fun other => ?_⟩
  rw [get?_put, huser]

theorem linesOf_of_put {other : String}
    (hput : s'.get? other = if other = user then some cart else s.get? other) :
    s'.linesOf other = if other = user then cart.items else s.linesOf other := by
  unfold linesOf
  rw [hput]
  split <;> rfl

end CartTable

end VolumePricing
