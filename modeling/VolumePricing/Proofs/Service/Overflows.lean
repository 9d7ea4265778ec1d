import VolumePricing.Proofs.Service.InMemory

/-!
# When a change of a cart overflows

Quantities are bounded nowhere but at zero. A change of a cart overflows exactly
when it is accepted and the units of the cart it leads to have no word, or when
a new cart or line would need a number that is no longer there.
-/

namespace VolumePricing

open VolumePricing.Action Checked
open Http (Request Response)

/-- The shopper's cart has come to hold so many units, and no other cart has changed. -/
structure Memory.ComesToHold (m m' : Memory) (user : String) (units : ℤ) : Prop where
  filled : AllFilled (m'.carts.linesOf user)
  units_eq : unitsOf (m'.carts.linesOf user) = units
  others : ∀ other, other ≠ user → m'.carts.linesOf other = m.carts.linesOf other

namespace Service

variable {settings : HubSettings} {authority : Authority} {user : String}
  {shop shop' : Shop Memory} {c : CartChange}

theorem write_set_eq_ok {productId : UInt32} {quantity : Int64}
    (hfilled : AllFilled (shop.store.carts.linesOf user))
    (h : (inMemory settings authority).write user (.set productId quantity) shop =
      .ok (.ok (), shop')) :
    (CartChange.set productId quantity).Accepted shop.store user ∧
      shop.store.ComesToHold shop'.store user
        ((CartChange.set productId quantity).unitsAfter shop.store user) := by
  rw [run_write_set] at h
  rcases hset : shop.store.carts.setQuantity user productId quantity with e | ⟨cart, carts⟩ <;>
    rw [hset] at h <;> cases h
  obtain ⟨hany, -, hitems, hput⟩ := CartTable.setQuantity_eq_ok hset
  obtain ⟨hall, hunits⟩ := CartTable.setIn_eq quantity hfilled hany
  have hlines : carts.linesOf user =
      CartTable.setIn (shop.store.carts.linesOf user) productId quantity := by
    rw [CartTable.linesOf_of_put (hput user), if_pos rfl, hitems]
  refine ⟨hany, hlines ▸ hall, hlines ▸ hunits, fun other hne => ?_⟩
  rw [CartTable.linesOf_of_put (hput other), if_neg hne]

theorem write_add_eq_ok {item : ItemRequest}
    (hfilled : AllFilled (shop.store.carts.linesOf user))
    (h : (inMemory settings authority).write user (.add item) shop = .ok (.ok (), shop')) :
    (CartChange.add item).Accepted shop.store user ∧
      shop.store.ComesToHold shop'.store user
        ((CartChange.add item).unitsAfter shop.store user) := by
  rw [run_write_add] at h
  split at h
  · cases h
  · rename_i hq
    have hpos : 0 < item.quantity.toInt := Int64.not_nonpos_iff.mp hq
    cases hp : shop.store.products.get? item.productId with
    | none =>
      rw [hp] at h
      cases h
    | some p =>
      rw [hp] at h
      rcases hadd : shop.store.carts.addItem user p item.quantity with o | ⟨cart, carts⟩ <;>
        simp only [hadd, Except.map] at h <;> cases h
      obtain ⟨items, id, hto, -, hitems, hput⟩ := CartTable.addItem_eq_ok hadd
      obtain ⟨hall, hunits⟩ := CartTable.addTo_eq_ok hfilled hpos hto
      have hlines : carts.linesOf user = items := by
        rw [CartTable.linesOf_of_put (hput user), if_pos rfl, hitems, hall.filter_eq]
      refine ⟨⟨hpos, by simp [hp]⟩, hlines ▸ hall, hlines ▸ hunits, fun other hne => ?_⟩
      rw [CartTable.linesOf_of_put (hput other), if_neg hne]

/-- A change that is made was accepted, and the cart then holds the units it asks for. -/
theorem write_eq_ok (hfilled : AllFilled (shop.store.carts.linesOf user))
    (h : (inMemory settings authority).write user c shop = .ok (.ok (), shop')) :
    c.Accepted shop.store user ∧
      shop.store.ComesToHold shop'.store user (c.unitsAfter shop.store user) := by
  cases c with
  | add item => exact write_add_eq_ok hfilled h
  | set productId quantity => exact write_set_eq_ok hfilled h
  | remove productId =>
    rw [write_remove] at h
    obtain ⟨hany, hholds⟩ := write_set_eq_ok hfilled h
    refine ⟨hany, hholds.filled, ?_, hholds.others⟩
    rw [hholds.units_eq]
    simp [CartChange.unitsAfter]

/-- A change overflows when it is accepted and needs a number that is not there, or already the
line it adds to leaves its word. -/
theorem overflows_write (hfilled : AllFilled (shop.store.carts.linesOf user)) :
    Overflows ((inMemory settings authority).write user c shop) →
      c.Accepted shop.store user ∧ (c.NeedsNumber shop.store user ∨
        Int64.maxValue.toInt < c.unitsAfter shop.store user) := by
  cases c with
  | add item =>
    rw [run_write_add]
    intro h
    split at h
    · exact absurd h (not_overflows_ok _)
    · rename_i hq
      have hpos : 0 < item.quantity.toInt := Int64.not_nonpos_iff.mp hq
      cases hp : shop.store.products.get? item.productId with
      | none =>
        rw [hp] at h
        exact absurd h (not_overflows_ok _)
      | some p =>
        have hid : p.id = item.productId := by simpa using List.find?_some hp
        rw [hp] at h
        simp only [overflows_map, CartTable.overflows_addItem, CartTable.overflows_openCart] at h
        refine ⟨⟨hpos, by simp [hp]⟩, ?_⟩
        rcases h with hcart | hto
        · exact Or.inl (Or.inl hcart)
        · rw [CartTable.overflows_addTo hfilled hpos, hid] at hto
          split at hto
          · right
            have hle : unitsOfProduct (shop.store.carts.linesOf user) item.productId ≤
                unitsOf (shop.store.carts.linesOf user) := hfilled.unitsOfProduct_le
            simp only [CartChange.unitsAfter]
            omega
          · rename_i hnone
            exact Or.inl (Or.inr ⟨by simpa using hnone, hto⟩)
  | set productId quantity =>
    rw [run_write_set]
    intro h
    split at h <;> exact absurd h (not_overflows_ok _)
  | remove productId =>
    rw [write_remove, run_write_set]
    intro h
    split at h <;> exact absurd h (not_overflows_ok _)

/-- A line that is there can be set. -/
theorem write_set_of_accepted {productId : UInt32} (quantity : Int64)
    (h : (shop.store.carts.linesOf user).any (·.productId == productId) = true) :
    ∃ shop', (inMemory settings authority).write user (.set productId quantity) shop =
      .ok (.ok (), shop') := by
  have hset : ∃ q, shop.store.carts.setQuantity user productId quantity = .ok q := by
    unfold CartTable.linesOf at h
    unfold CartTable.setQuantity
    cases hget : shop.store.carts.get? user with
    | none => simp [hget] at h
    | some cart =>
      simp only [hget, Option.map_some, Option.getD_some] at h
      simp [h]
  obtain ⟨q, hq⟩ := hset
  rw [run_write_set, hq]
  exact ⟨_, rfl⟩

/-- A change that is accepted is made, unless it overflows. -/
theorem write_of_accepted (h : c.Accepted shop.store user) :
    Overflows ((inMemory settings authority).write user c shop) ∨
      ∃ shop', (inMemory settings authority).write user c shop = .ok (.ok (), shop') := by
  cases c with
  | add item =>
    obtain ⟨hpos, hproduct⟩ := h
    obtain ⟨p, hp⟩ := Option.isSome_iff_exists.mp hproduct
    have hq : ¬ item.quantity ≤ 0 := Int64.not_nonpos_iff.mpr hpos
    rw [run_write_add, if_neg hq, hp]
    rcases hadd : shop.store.carts.addItem user p item.quantity with o | q
    · exact Or.inl ⟨o, by simp [hadd, Except.map]⟩
    · exact Or.inr ⟨_, by simp only [hadd, Except.map]; rfl⟩
  | set productId quantity => exact Or.inr (write_set_of_accepted quantity h)
  | remove productId =>
    rw [write_remove]
    exact Or.inr (write_set_of_accepted 0 h)

theorem overflows_write_of_needsNumber (hfilled : AllFilled (shop.store.carts.linesOf user))
    (haccepted : c.Accepted shop.store user) (hneeds : c.NeedsNumber shop.store user) :
    Overflows ((inMemory settings authority).write user c shop) := by
  cases c with
  | add item =>
    obtain ⟨hpos, hproduct⟩ := haccepted
    obtain ⟨p, hp⟩ := Option.isSome_iff_exists.mp hproduct
    have hid : p.id = item.productId := by simpa using List.find?_some hp
    have hq : ¬ item.quantity ≤ 0 := Int64.not_nonpos_iff.mpr hpos
    rw [run_write_add, if_neg hq, hp]
    simp only [overflows_map, CartTable.overflows_addItem, CartTable.overflows_openCart]
    rcases hneeds with hcart | ⟨hnone, hline⟩
    · exact Or.inl hcart
    · right
      rw [CartTable.overflows_addTo hfilled hpos, hid, hnone]
      exact hline
  | set productId quantity => cases hneeds
  | remove productId => cases hneeds

/-- A change of the cart overflows when it is accepted and needs a number that is not there, or
the cart would hold more units than fit into a word. -/
theorem overflows_change (moment : Moment)
    (hfilled : AllFilled (shop.store.carts.linesOf user)) :
    Overflows ((inMemory settings authority).change user moment c shop) ↔
      c.Accepted shop.store user ∧ (c.NeedsNumber shop.store user ∨
        Int64.maxValue.toInt < c.unitsAfter shop.store user) := by
  have hrefresh : ∀ {shop'}, (inMemory settings authority).write user c shop =
      .ok (.ok (), shop') →
      (Overflows ((inMemory settings authority).refresh user moment shop') ↔
        Int64.maxValue.toInt < c.unitsAfter shop.store user) := by
    intro shop' hwrite
    obtain ⟨-, hholds⟩ := write_eq_ok hfilled hwrite
    rw [overflows_refresh hholds.filled, hholds.units_eq]
  have hchange : Overflows ((inMemory settings authority).change user moment c shop) ↔
      Overflows ((inMemory settings authority).write user c shop) ∨
        ∃ shop', (inMemory settings authority).write user c shop = .ok (.ok (), shop') ∧
          Overflows ((inMemory settings authority).refresh user moment shop') := by
    simp [change, Action.overflows_bind, Unique.exists_iff]
  rw [hchange]
  constructor
  · rintro (hwrite | ⟨shop', hwrite, hover⟩)
    · exact overflows_write hfilled hwrite
    · exact ⟨(write_eq_ok hfilled hwrite).1, Or.inr ((hrefresh hwrite).mp hover)⟩
  · rintro ⟨haccepted, hneeds | hunits⟩
    · exact Or.inl (overflows_write_of_needsNumber hfilled haccepted hneeds)
    · rcases write_of_accepted haccepted with hwrite | ⟨shop', hwrite⟩
      · exact Or.inl hwrite
      · exact Or.inr ⟨shop', hwrite, (hrefresh hwrite).mpr hunits⟩

end Service

end VolumePricing
