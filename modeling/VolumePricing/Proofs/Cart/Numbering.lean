import VolumePricing.Proofs.Cart.Ledger

/-!
# Numbers of carts and lines

Carts and lines are numbered as they are opened, and a number is never given a
second time. Every change puts one cart in the table: the shopper's own with
other lines, or a new one under the next number. Of the numbers of its lines
only those of a new line can be new.
-/

namespace VolumePricing

open Checked

namespace CartTable

variable {s t : CartTable} {cart : Cart} {user : String} {fresh : List UInt32}

/-- A table as calls leave it: a cart for a shopper, a filled line for a product, and every cart
and every line with a number of its own among those given out. -/
structure Sound (s : CartTable) : Prop where
  users : (s.carts.map (·.userId)).Nodup
  cartIds : (s.carts.map (·.id)).Nodup
  itemIds : (s.carts.flatMap fun c => c.items.map (·.cartItemId)).Nodup
  products : ∀ c ∈ s.carts, (c.items.map (·.productId)).Nodup
  filled : ∀ c ∈ s.carts, AllFilled c.items
  cartIds_le : ∀ c ∈ s.carts, c.id.toNat ≤ s.lastCartId.toNat
  itemIds_le : ∀ c ∈ s.carts, ∀ l ∈ c.items, l.cartItemId.toNat ≤ s.lastItemId.toNat

theorem sound_empty : empty.Sound where
  users := List.nodup_nil
  cartIds := List.nodup_nil
  itemIds := List.nodup_nil
  products := by simp [empty]
  filled := by simp [empty]
  cartIds_le := by simp [empty]
  itemIds_le := by simp [empty]

theorem mem_of_get? (h : s.get? user = some cart) : cart ∈ s.carts := List.mem_of_find?_eq_some h

theorem Sound.products_linesOf (hs : s.Sound) (user : String) :
    ((s.linesOf user).map (·.productId)).Nodup := by
  unfold linesOf
  cases hget : s.get? user with
  | none => exact List.nodup_nil
  | some c => exact hs.products c (mem_of_get? hget)

theorem Sound.filled_linesOf (hs : s.Sound) (user : String) : AllFilled (s.linesOf user) := by
  unfold linesOf
  cases hget : s.get? user with
  | none => simp [AllFilled]
  | some c => exact hs.filled c (mem_of_get? hget)

theorem Sound.itemIds_linesOf_le (hs : s.Sound) (user : String) {l : CartLine}
    (hl : l ∈ s.linesOf user) : l.cartItemId.toNat ≤ s.lastItemId.toNat := by
  unfold linesOf at hl
  cases hget : s.get? user with
  | none => simp [hget] at hl
  | some c =>
    rw [hget] at hl
    exact hs.itemIds_le c (mem_of_get? hget) l hl

/-! ### A cart in the place of another -/

theorem lastCartId_put (s : CartTable) (cart : Cart) :
    (s.put cart).lastCartId = s.lastCartId := by
  unfold put
  split <;> rfl

theorem lastItemId_put (s : CartTable) (cart : Cart) :
    (s.put cart).lastItemId = s.lastItemId := by
  unfold put
  split <;> rfl

theorem mem_put {c : Cart} (h : c ∈ (s.put cart).carts) : c = cart ∨ c ∈ s.carts := by
  unfold put at h
  split at h
  · rcases mem_modifyFirst h with hc | ⟨_, -, -, rfl⟩
    · exact Or.inr hc
    · exact Or.inl rfl
  · rcases List.mem_append.mp h with hc | hc
    · exact Or.inr hc
    · exact Or.inl (List.mem_singleton.mp hc)

/-- What a table lists of its carts is what it lists of one of them and of the rest. -/
theorem exists_flatMap_put {β : Type} (g : Cart → List β) (s : CartTable) (cart : Cart) :
    ∃ rest, (s.carts.flatMap g).Perm (((s.get? cart.userId).map g).getD [] ++ rest) ∧
      ((s.put cart).carts.flatMap g).Perm (g cart ++ rest) := by
  unfold put
  cases hget : s.get? cart.userId with
  | some old =>
    obtain ⟨front, back, hcarts, hput⟩ := exists_modifyFirst_eq (fun _ => cart) hget
    refine ⟨front.flatMap g ++ back.flatMap g, ?_, ?_⟩
    · rw [hcarts, List.flatMap_append, List.flatMap_cons]
      exact List.perm_append_comm_assoc _ _ _
    · rw [if_pos (by rfl), hput, List.flatMap_append, List.flatMap_cons]
      exact List.perm_append_comm_assoc _ _ _
  | none =>
    refine ⟨s.carts.flatMap g, .refl _, ?_⟩
    rw [if_neg (by simp), List.flatMap_append, List.flatMap_singleton]
    exact List.perm_append_comm

/-- A cart that lists no more than the old one and what is new leaves everything distinct. -/
theorem nodup_flatMap_put {β : Type} {g : Cart → List β} (new : List β)
    (hs : (s.carts.flatMap g).Nodup) (hnew : new.Nodup) (hunused : ∀ x ∈ new, x ∉ s.carts.flatMap g)
    (hsub : (g cart).Sublist (((s.get? cart.userId).map g).getD [] ++ new)) :
    ((s.put cart).carts.flatMap g).Nodup := by
  obtain ⟨rest, hold, hput⟩ := exists_flatMap_put g s cart
  have hall : (((s.get? cart.userId).map g).getD [] ++ rest ++ new).Nodup := by
    refine (hold.nodup_iff.mp hs).append hnew ?_
    intro x hx hxnew
    exact hunused x hxnew (hold.mem_iff.mpr hx)
  rw [hput.nodup_iff]
  refine List.Nodup.sublist (hsub.append_right rest) ?_
  rw [List.append_assoc, (List.perm_append_comm.append_left _).nodup_iff, ← List.append_assoc]
  exact hall

/-- What tells carts apart goes on doing so. -/
theorem nodup_map_put {β : Type} {f : Cart → β} (hs : (s.carts.map f).Nodup)
    (h : (∃ old, s.get? cart.userId = some old ∧ f cart = f old) ∨
      s.get? cart.userId = none ∧ ∀ c ∈ s.carts, f c ≠ f cart) :
    ((s.put cart).carts.map f).Nodup := by
  rw [List.map_eq_flatMap] at hs ⊢
  rcases h with ⟨old, hold, hsame⟩ | ⟨hnone, hother⟩
  · refine nodup_flatMap_put [] hs List.nodup_nil (by simp) ?_
    simp [hold, hsame]
  · refine nodup_flatMap_put [f cart] hs (List.nodup_singleton _) ?_ ?_
    · intro x hx hmem
      rw [List.mem_singleton.mp hx, ← List.map_eq_flatMap] at hmem
      obtain ⟨c, hc, hsame⟩ := List.mem_map.mp hmem
      exact hother c hc hsame
    · simp [hnone]

/-- A cart that may come into the table, once the counters stand as they do in `t`. -/
structure Succeeds (s t : CartTable) (cart : Cart) (fresh : List UInt32) : Prop where
  carts : t.carts = s.carts
  cartId_le : s.lastCartId.toNat ≤ t.lastCartId.toNat
  itemId_le : s.lastItemId.toNat ≤ t.lastItemId.toNat
  id : (∃ old, s.get? cart.userId = some old ∧ cart.id = old.id) ∨
    s.get? cart.userId = none ∧ s.lastCartId.toNat < cart.id.toNat ∧
      cart.id.toNat ≤ t.lastCartId.toNat
  products : (cart.items.map (·.productId)).Nodup
  filled : AllFilled cart.items
  fresh_nodup : fresh.Nodup
  fresh_lt : ∀ id ∈ fresh, s.lastItemId.toNat < id.toNat ∧ id.toNat ≤ t.lastItemId.toNat
  itemIds : (cart.items.map (·.cartItemId)).Sublist
    ((s.linesOf cart.userId).map (·.cartItemId) ++ fresh)

theorem Succeeds.get? (h : Succeeds s t cart fresh) (user : String) : t.get? user = s.get? user := by
  rw [CartTable.get?, h.carts, CartTable.get?]

/-- The numbers of the cart's lines are those of the old cart's lines and what is fresh. -/
theorem Succeeds.itemIds_sublist (h : Succeeds s t cart fresh) :
    (cart.items.map (·.cartItemId)).Sublist
      (((s.get? cart.userId).map fun c => c.items.map (·.cartItemId)).getD [] ++ fresh) := by
  have hsub := h.itemIds
  unfold linesOf at hsub
  cases hold : s.get? cart.userId <;> simpa [hold] using hsub

theorem Succeeds.cartId_put (hs : s.Sound) (h : Succeeds s t cart fresh) :
    ((t.put cart).carts.map (·.id)).Nodup := by
  refine nodup_map_put (h.carts ▸ hs.cartIds) ?_
  rw [h.get?, h.carts]
  refine h.id.imp_right fun ⟨hnone, hlt, _⟩ => ⟨hnone, fun c hc hid => ?_⟩
  have hle := hs.cartIds_le c hc
  rw [hid] at hle
  omega

theorem Succeeds.itemIds_put (hs : s.Sound) (h : Succeeds s t cart fresh) :
    ((t.put cart).carts.flatMap fun c => c.items.map (·.cartItemId)).Nodup := by
  refine nodup_flatMap_put fresh (h.carts ▸ hs.itemIds) h.fresh_nodup ?_ ?_
  · intro id hid hold
    rw [h.carts] at hold
    obtain ⟨c, hc, hidc⟩ := List.mem_flatMap.mp hold
    obtain ⟨l, hl, rfl⟩ := List.mem_map.mp hidc
    have hle := hs.itemIds_le c hc l hl
    have hlt := (h.fresh_lt _ hid).1
    omega
  · rw [h.get?]
    exact h.itemIds_sublist

theorem Succeeds.id_le (hs : s.Sound) (h : Succeeds s t cart fresh) :
    cart.id.toNat ≤ t.lastCartId.toNat := by
  rcases h.id with ⟨old, hold, hid⟩ | ⟨-, -, hle⟩
  · rw [hid]
    exact (hs.cartIds_le old (mem_of_get? hold)).trans h.cartId_le
  · exact hle

theorem Succeeds.itemId_le_of_mem (hs : s.Sound) (h : Succeeds s t cart fresh) {l : CartLine}
    (hl : l ∈ cart.items) : l.cartItemId.toNat ≤ t.lastItemId.toNat := by
  rcases List.mem_append.mp (h.itemIds.subset (List.mem_map_of_mem hl)) with hid | hid
  · obtain ⟨old, hold, hsame⟩ := List.mem_map.mp hid
    rw [← hsame]
    exact (hs.itemIds_linesOf_le cart.userId hold).trans h.itemId_le
  · exact (h.fresh_lt _ hid).2

/-- The table is as sound as before with a cart that may come into it. -/
theorem Sound.put (hs : s.Sound) (h : Succeeds s t cart fresh) : (t.put cart).Sound where
  users := by
    refine nodup_map_put (h.carts ▸ hs.users) ?_
    rw [h.get?, h.carts]
    rcases h.id with ⟨old, hold, -⟩ | ⟨hnone, -, -⟩
    · exact Or.inl ⟨old, hold, (userId_of_get? hold).symm⟩
    · exact Or.inr ⟨hnone, by simpa [CartTable.get?, List.find?_eq_none] using hnone⟩
  cartIds := h.cartId_put hs
  itemIds := h.itemIds_put hs
  products := by
    intro c hc
    rcases mem_put hc with rfl | hc
    · exact h.products
    · exact hs.products c (h.carts ▸ hc)
  filled := by
    intro c hc
    rcases mem_put hc with rfl | hc
    · exact h.filled
    · exact hs.filled c (h.carts ▸ hc)
  cartIds_le := by
    intro c hc
    rw [lastCartId_put]
    rcases mem_put hc with rfl | hc
    · exact h.id_le hs
    · exact (hs.cartIds_le c (h.carts ▸ hc)).trans h.cartId_le
  itemIds_le := by
    intro c hc l hl
    rw [lastItemId_put]
    rcases mem_put hc with rfl | hc
    · exact h.itemId_le_of_mem hs hl
    · exact (hs.itemIds_le c (h.carts ▸ hc) l hl).trans h.itemId_le

end CartTable

end VolumePricing
