import VolumePricing.Proofs.Cart.Numbering
import VolumePricing.Proofs.Summary.Unnumbered

/-!
# Carts under other numbers

Two tables of carts are alike for a shopper when they show the same cart under
numbers that may differ. Where more carts and lines have been numbered in the
one, every call of the shopper that ends there ends in the other as well, and
leaves the two alike. What others put in the first table makes no difference.
-/

namespace VolumePricing

open Checked

/-- What looks at no number finds the same line with or without numbers. -/
theorem find?_of_unnumbered {items items₀ : List CartLine} {p : CartLine → Bool}
    (hp : ∀ l : CartLine, p l.unnumbered = p l)
    (h : items₀.map (·.unnumbered) = items.map (·.unnumbered)) :
    (items₀.find? p).map (·.unnumbered) = (items.find? p).map (·.unnumbered) := by
  have hfind : ∀ xs : List CartLine,
      (xs.map (·.unnumbered)).find? p = (xs.find? p).map (·.unnumbered) := by
    intro xs
    rw [List.find?_map]
    simp only [Function.comp_def, hp]
  rw [← hfind, ← hfind, h]

namespace CartTable

variable {s s' s₀ t : CartTable} {user other : String} {cart opened : Cart} {product : Product}
  {quantity : Int64} {productId last last₀ id : UInt32} {items items' items₀ : List CartLine}

/-- The shopper has the same cart in both tables, and as many carts and lines at least have been
numbered in the first. -/
structure Alike (user : String) (s s₀ : CartTable) : Prop where
  cart : (s₀.get? user).map (·.unnumbered) = (s.get? user).map (·.unnumbered)
  lastCartId : s₀.lastCartId.toNat ≤ s.lastCartId.toNat
  lastItemId : s₀.lastItemId.toNat ≤ s.lastItemId.toNat

/-- A number that is there after a larger one is there after a smaller one. -/
theorem exists_addUInt32_one (h : addUInt32 last 1 = .ok id) (hle : last₀.toNat ≤ last.toNat) :
    ∃ id₀, addUInt32 last₀ 1 = .ok id₀ ∧ id₀.toNat ≤ id.toNat := by
  have hid : id.toNat = last.toNat + 1 := addUInt32_eq_ok.mp h
  have hlt := id.toNat_lt_size
  cases h₀ : addUInt32 last₀ 1 with
  | ok id₀ =>
    have hid₀ : id₀.toNat = last₀.toNat + 1 := addUInt32_eq_ok.mp h₀
    exact ⟨id₀, rfl, by omega⟩
  | error o =>
    have hover : last₀.toNat + 1 = UInt32.size :=
      (overflows_addUInt32_one last₀).mp (h₀ ▸ overflows_error o)
    omega

theorem Alike.linesOf (h : Alike user s s₀) :
    (s₀.linesOf user).map (·.unnumbered) = (s.linesOf user).map (·.unnumbered) := by
  have hlines : ∀ t : CartTable, (t.linesOf user).map (·.unnumbered) =
      (((t.get? user).map (·.unnumbered)).map (·.items)).getD [] := by
    intro t
    unfold CartTable.linesOf
    cases t.get? user <;> rfl
  rw [hlines, hlines, h.cart]

theorem Alike.openCart (h : Alike user s s₀) (hopen : s.openCart user = .ok (opened, t)) :
    ∃ opened₀ t₀, s₀.openCart user = .ok (opened₀, t₀) ∧
      opened₀.unnumbered = opened.unnumbered ∧ t₀.lastCartId.toNat ≤ t.lastCartId.toNat := by
  have hcart := h.cart
  obtain ⟨hget, rfl⟩ | ⟨hget, id, hid, rfl, rfl⟩ := openCart_cases hopen
  · cases hget₀ : s₀.get? user with
    | none => simp [hget, hget₀] at hcart
    | some old₀ =>
      simp only [hget, hget₀, Option.map_some, Option.some.injEq] at hcart
      exact ⟨old₀, s₀, openCart_of_some hget₀, hcart, h.lastCartId⟩
  · have hget₀ : s₀.get? user = none := by simpa [hget] using hcart
    obtain ⟨id₀, hid₀, hle⟩ := exists_addUInt32_one hid h.lastCartId
    refine ⟨⟨id₀, user, []⟩, ⟨s₀.carts, id₀, s₀.lastItemId⟩, ?_, rfl, hle⟩
    rw [openCart_of_none hget₀, hid₀]
    rfl

/-- The same lines with another quantity of one product are the same lines. -/
theorem modifyFirst_of_unnumbered (productId : UInt32) (quantity : Int64)
    (h : items₀.map (·.unnumbered) = items.map (·.unnumbered)) :
    (modifyFirst (·.productId == productId) (fun l => { l with quantity }) items₀).map
        (·.unnumbered) =
      (modifyFirst (·.productId == productId) (fun l => { l with quantity }) items).map
        (·.unnumbered) := by
  have hmap : ∀ xs : List CartLine,
      (modifyFirst (·.productId == productId) (fun l => { l with quantity }) xs).map
          (·.unnumbered) =
        modifyFirst (·.productId == productId) (fun l => { l with quantity })
          (xs.map (·.unnumbered)) :=
    map_modifyFirst_comm (g := CartLine.unnumbered) (fun _ => rfl) fun _ => rfl
  rw [hmap, hmap, h]

/-- The same lines with units added are the same lines. -/
theorem addTo_of_unnumbered (h : items₀.map (·.unnumbered) = items.map (·.unnumbered))
    (hle : last₀.toNat ≤ last.toNat) (hadd : addTo last items product quantity = .ok (items', id)) :
    ∃ items₀' id₀, addTo last₀ items₀ product quantity = .ok (items₀', id₀) ∧
      items₀'.map (·.unnumbered) = items'.map (·.unnumbered) ∧ id₀.toNat ≤ id.toNat := by
  have hfind := find?_of_unnumbered (p := (·.productId == product.id)) (fun _ => rfl) h
  rcases addTo_cases hadd with ⟨line, sum, hline, hsum, rfl, rfl⟩ | ⟨hnone, hid, rfl⟩
  · rw [hline] at hfind
    obtain ⟨line₀, hline₀, hsame⟩ := Option.map_eq_some_iff.mp hfind
    have hquantity : line₀.quantity = line.quantity := congrArg (·.quantity) hsame
    have hadd₀ : addTo last₀ items₀ product quantity = .ok (modifyFirst
        (·.productId == product.id) (fun l => { l with quantity := sum }) items₀, last₀) := by
      unfold addTo
      rw [hline₀]
      simp only [hquantity, hsum, bind, Except.bind]
      rfl
    exact ⟨_, last₀, hadd₀, modifyFirst_of_unnumbered product.id sum h, hle⟩
  · obtain ⟨id₀, hid₀, hle'⟩ := exists_addUInt32_one hid hle
    rw [hnone, Option.map_none, Option.map_eq_none_iff] at hfind
    refine ⟨items₀ ++ [newLine id₀ product quantity], id₀, ?_, ?_, hle'⟩
    · unfold addTo
      rw [hfind]
      simp only [hid₀, bind, Except.bind]
      rfl
    · rw [List.map_append, List.map_append, h]
      rfl

theorem setIn_of_unnumbered (productId : UInt32) (quantity : Int64)
    (h : items₀.map (·.unnumbered) = items.map (·.unnumbered)) :
    (setIn items₀ productId quantity).map (·.unnumbered) =
      (setIn items productId quantity).map (·.unnumbered) := by
  unfold setIn
  split
  · have herase : ∀ xs : List CartLine, (xs.eraseP (·.productId == productId)).map (·.unnumbered) =
        (xs.map (·.unnumbered)).eraseP (·.productId == productId) := fun xs => by
      rw [List.eraseP_map]
      rfl
    rw [herase, herase, h]
  · exact modifyFirst_of_unnumbered productId quantity h

/-- A cart that is put in both tables is the shopper's in both. -/
theorem Alike.of_put {cart₀ : Cart} (t t₀ : CartTable) (hid : cart.userId = user)
    (hsame : cart₀.unnumbered = cart.unnumbered)
    (hcart : t₀.lastCartId.toNat ≤ t.lastCartId.toNat)
    (hitem : t₀.lastItemId.toNat ≤ t.lastItemId.toNat) :
    (t.put cart).Alike user (t₀.put cart₀) where
  cart := by
    have hid₀ : cart₀.userId = user := hid ▸ congrArg (·.userId) hsame
    rw [get?_put, get?_put, hid, hid₀, if_pos rfl, if_pos rfl, Option.map_some, Option.map_some,
      hsame]
  lastCartId := by rwa [lastCartId_put, lastCartId_put]
  lastItemId := by rwa [lastItemId_put, lastItemId_put]

/-- Units that the shopper adds in the first table can be added in the second. -/
theorem Alike.addItem (h : Alike user s s₀)
    (hadd : s.addItem user product quantity = .ok (cart, s')) :
    ∃ cart₀ s₀', s₀.addItem user product quantity = .ok (cart₀, s₀') ∧ Alike user s' s₀' := by
  obtain ⟨opened, t, items, id, hopen, hto, rfl, rfl⟩ := addItem_eq_put hadd
  obtain ⟨opened₀, t₀, hopen₀, hsame, hcart⟩ := h.openCart hopen
  obtain ⟨items₀, id₀, hto₀, hitems, hitem⟩ := addTo_of_unnumbered h.linesOf h.lastItemId hto
  obtain ⟨huser, -, -, -⟩ := openCart_eq_ok hopen
  obtain ⟨-, -, hlast₀, hlines₀⟩ := openCart_eq_ok hopen₀
  refine ⟨{ opened₀ with items := items₀.filter (0 < ·.quantity) },
    ({ t₀ with lastItemId := id₀ }).put { opened₀ with items := items₀.filter (0 < ·.quantity) },
    ?_, ?_⟩
  · unfold CartTable.addItem
    simp only [hopen₀, bind, Except.bind, hlast₀, hlines₀, hto₀]
    rfl
  · have hfilter : ∀ xs : List CartLine, (xs.filter (0 < ·.quantity)).map (·.unnumbered) =
        (xs.map (·.unnumbered)).filter (0 < ·.quantity) := fun xs => by
      rw [List.filter_map]
      rfl
    have hopened : opened₀.userId = opened.userId := congrArg (·.userId) hsame
    refine Alike.of_put { t with lastItemId := id } { t₀ with lastItemId := id₀ } huser ?_ hcart hitem
    simp only [Cart.unnumbered, hfilter, hitems, hopened]

/-- The shopper sets a quantity in both tables, or is refused by both for the same reason. -/
theorem Alike.setQuantity (h : Alike user s s₀) (productId : UInt32) (quantity : Int64) :
    (∃ e, s.setQuantity user productId quantity = .error e ∧
      s₀.setQuantity user productId quantity = .error e) ∨
    ∃ cart s' cart₀ s₀', s.setQuantity user productId quantity = .ok (cart, s') ∧
      s₀.setQuantity user productId quantity = .ok (cart₀, s₀') ∧ Alike user s' s₀' := by
  have hcart := h.cart
  unfold CartTable.setQuantity
  cases hget : s.get? user with
  | none =>
    rw [hget, Option.map_none, Option.map_eq_none_iff] at hcart
    rw [hcart]
    exact Or.inl ⟨_, rfl, rfl⟩
  | some old =>
    rw [hget] at hcart
    obtain ⟨old₀, hget₀, hsame⟩ := Option.map_eq_some_iff.mp hcart
    have hitems : old₀.items.map (·.unnumbered) = old.items.map (·.unnumbered) :=
      congrArg (·.items) hsame
    have hany : old₀.items.any (·.productId == productId) =
        old.items.any (·.productId == productId) := by
      have hmap : ∀ xs : List CartLine, xs.any (·.productId == productId) =
          (xs.map (·.unnumbered)).any (·.productId == productId) := fun xs => by
        rw [List.any_map]
        rfl
      rw [hmap, hmap old.items, hitems]
    simp only [hget₀, hany]
    split
    · have huser : old.userId = user := userId_of_get? hget
      have hold : old₀.userId = old.userId := congrArg (·.userId) hsame
      refine Or.inr ⟨_, _, _, _, rfl, rfl, Alike.of_put s s₀ huser ?_ h.lastCartId h.lastItemId⟩
      simp only [Cart.unnumbered, setIn_of_unnumbered productId quantity hitems, hold]
    · exact Or.inl ⟨_, rfl, rfl⟩

/-- What others add makes no difference to the shopper. -/
theorem Alike.addItem_of_ne (h : Alike user s s₀) (hne : other ≠ user)
    (hadd : s.addItem other product quantity = .ok (cart, s')) : Alike user s' s₀ := by
  obtain ⟨_, _, -, -, -, hget⟩ := addItem_eq_ok hadd
  obtain ⟨opened, t, items, id, hopen, hto, -, rfl⟩ := addItem_eq_put hadd
  have hcart : s.lastCartId.toNat ≤ t.lastCartId.toNat := by
    rcases openCart_id hopen with ⟨-, rfl⟩ | ⟨-, hid, hlast⟩
    · exact le_rfl
    · rw [hlast, hid]
      exact Nat.le_succ _
  have hitem : s.lastItemId.toNat ≤ id.toNat := by
    rcases addTo_cases hto with ⟨_, _, -, -, rfl, -⟩ | ⟨-, hid, -⟩
    · exact le_rfl
    · rw [addUInt32_eq_ok.mp hid]
      exact Nat.le_add_right _ _
  refine ⟨?_, ?_, ?_⟩
  · rw [hget user, if_neg (Ne.symm hne), h.cart]
  · rw [lastCartId_put]
    exact h.lastCartId.trans hcart
  · rw [lastItemId_put]
    exact h.lastItemId.trans hitem

/-- Nor does what others set. -/
theorem Alike.setQuantity_of_ne (h : Alike user s s₀) (hne : other ≠ user)
    (hset : s.setQuantity other productId quantity = .ok (cart, s')) : Alike user s' s₀ := by
  obtain ⟨-, -, -, hget⟩ := setQuantity_eq_ok hset
  obtain ⟨_, -, -, -, rfl⟩ := setQuantity_eq_put hset
  refine ⟨?_, ?_, ?_⟩
  · rw [hget user, if_neg (Ne.symm hne), h.cart]
  · rw [lastCartId_put]
    exact h.lastCartId
  · rw [lastItemId_put]
    exact h.lastItemId

end CartTable

end VolumePricing
