import VolumePricing.Proofs.FirstMatch
import VolumePricing.Store.ProductShelf

/-!
# Places on the shelf

Products stand by increasing id, so an id names one product and one place. New
prices are put on the product where it stands, and those in front of it and
behind it are not touched.
-/

namespace VolumePricing.ProductShelf

/-- The products stand by increasing id. -/
def Sorted (s : ProductShelf) : Prop := (s.products.map (·.id)).Pairwise (· < ·)

theorem mem_put {p q : Product} {ps : List Product} (h : q ∈ put p ps) : q = p ∨ q ∈ ps := by
  fun_induction put p ps with
  | case1 => exact Or.inl (List.mem_singleton.mp h)
  | case2 x xs hlt => exact List.mem_cons.mp h
  | case3 x xs hlt heq => exact (List.mem_cons.mp h).imp_right (List.mem_cons_of_mem x)
  | case4 x xs hlt hne ih =>
    rcases List.mem_cons.mp h with rfl | h
    · exact Or.inr List.mem_cons_self
    · exact (ih h).imp_right (List.mem_cons_of_mem x)

/-- A product that is put in its place is behind smaller ids and in front of larger ones. -/
theorem sorted_put (p : Product) {ps : List Product} (h : Sorted ⟨ps⟩) : Sorted ⟨put p ps⟩ := by
  unfold Sorted at h ⊢
  rw [List.pairwise_map] at h ⊢
  fun_induction put p ps with
  | case1 => exact List.pairwise_singleton _ _
  | case2 x xs hlt =>
    refine List.pairwise_cons.mpr ⟨fun y hy => ?_, h⟩
    rcases List.mem_cons.mp hy with rfl | hy
    · exact hlt
    · exact UInt32.lt_trans hlt (List.rel_of_pairwise_cons h hy)
  | case3 x xs hlt heq =>
    refine List.pairwise_cons.mpr ⟨fun y hy => ?_, h.of_cons⟩
    rw [heq]
    exact List.rel_of_pairwise_cons h hy
  | case4 x xs hlt hne ih =>
    refine List.pairwise_cons.mpr ⟨fun y hy => ?_, ih h.of_cons⟩
    rcases mem_put hy with rfl | hy
    · exact UInt32.lt_of_le_of_ne (UInt32.not_lt.mp hlt) (Ne.symm hne)
    · exact List.rel_of_pairwise_cons h hy

theorem sorted_ofProducts (products : List Product) : (ofProducts products).Sorted := by
  have sorted_foldl : ∀ ps : List Product, Sorted ⟨ps⟩ →
      Sorted ⟨products.foldl (fun shelf p => put p shelf) ps⟩ := by
    induction products with
    | nil => exact fun ps hps => hps
    | cons p products ih => exact fun ps hps => ih (put p ps) (sorted_put p hps)
  exact sorted_foldl [] List.Pairwise.nil

/-- New prices leave every product in its place. -/
theorem sorted_updatePrices {s s' : ProductShelf} {id : UInt32} {prices : ProductPrices}
    (hs : s.Sorted) (h : s.updatePrices id prices = .ok s') : s'.Sorted := by
  unfold updatePrices at h
  cases hget : s.get? id with
  | none =>
    rw [hget] at h
    cases h
  | some p =>
    rw [hget] at h
    cases h
    unfold Sorted at hs ⊢
    rwa [map_modifyFirst (fun p => p.id_setPrices prices)]

/-- New prices are set where the product stands. -/
theorem updatePrices_between {front back : List Product} {p : Product}
    (h : Sorted ⟨front ++ p :: back⟩) (prices : ProductPrices) :
    updatePrices ⟨front ++ p :: back⟩ p.id prices =
      .ok ⟨front ++ p.setPrices prices :: back⟩ := by
  have hfront : ∀ q ∈ front, (q.id == p.id) = false := by
    intro q hq
    unfold Sorted at h
    rw [List.pairwise_map, List.pairwise_append] at h
    have hlt : q.id < p.id := h.2.2 q hq p List.mem_cons_self
    simpa using UInt32.ne_of_lt hlt
  have hget : get? ⟨front ++ p :: back⟩ p.id = some p := by
    unfold get?
    rw [List.find?_append, List.find?_eq_none.mpr (by simpa using hfront)]
    simp
  have hplace : modifyFirst (·.id == p.id) (·.setPrices prices) (front ++ p :: back) =
      front ++ p.setPrices prices :: back :=
    modifyFirst_append_cons (beq_self_eq_true p.id) hfront
  rw [updatePrices, hget]
  exact congrArg (fun ps => Except.ok (ProductShelf.mk ps)) hplace

end VolumePricing.ProductShelf
