import VolumePricing.Proofs.Tier.Listing

/-!
# What a new order does

A new order is carried out entry by entry, and each entry replaces one order
index. What an earlier entry put there is lost, so of each tier the last entry
decides and everything else is left as it was. Entries for different tiers do
not meet. An order that gives every tier an index of its own is the order in
which the tiers are listed from then on.
-/

namespace VolumePricing

/-- The order index that the last entry for an id gives. -/
def TierOrder.placeOf? (order : List TierOrder) (id : UInt32) : Option Int32 :=
  (order.filter (·.id = id)).getLast?.map (·.orderIndex)

namespace TierOrder

variable {order order' : List TierOrder} {id : UInt32}

@[simp] theorem placeOf?_nil : placeOf? [] id = none := rfl

/-- One entry more at the end decides for its own id. -/
theorem placeOf?_concat (order : List TierOrder) (o : TierOrder) (id : UInt32) :
    placeOf? (order ++ [o]) id = if o.id = id then some o.orderIndex else placeOf? order id := by
  unfold placeOf?
  rw [List.filter_append]
  by_cases h : o.id = id <;> simp [h]

theorem placeOf?_isSome : (placeOf? order id).isSome ↔ id ∈ order.map (·.id) := by
  simp [placeOf?]

/-- Where no id is named twice, the place of an id does not depend on the order of the entries. -/
theorem placeOf?_of_perm (hperm : order'.Perm order) (hnodup : (order.map (·.id)).Nodup) :
    placeOf? order' id = placeOf? order id := by
  have hnodup' : (order'.map (·.id)).Nodup := (hperm.map (·.id)).nodup_iff.mpr hnodup
  rw [placeOf?, placeOf?, filter_key_eq_of_perm id hperm hnodup']

end TierOrder

open TierOrder

/-- The tier at the place that a new order has for it. -/
def PriceTier.movedBy (order : List TierOrder) (t : PriceTier) : PriceTier :=
  { t with orderIndex := (placeOf? order t.id).getD t.orderIndex }

theorem PriceTier.placeOf?_of_named {order : List TierOrder} {t : PriceTier}
    (h : t.id ∈ order.map (·.id)) : placeOf? order t.id = some (t.movedBy order).orderIndex := by
  obtain ⟨i, hi⟩ := Option.isSome_iff_exists.mp (placeOf?_isSome.mpr h)
  rw [movedBy, hi, Option.getD_some]

namespace TierTable

variable {s : TierTable} {order order' : List TierOrder}

/-- The step: one entry more moves one tier. -/
theorem place_map_movedBy {tiers : List PriceTier} (h : (tiers.map (·.id)).Nodup)
    (order : List TierOrder) (o : TierOrder) :
    place (tiers.map (·.movedBy order)) o = tiers.map (·.movedBy (order ++ [o])) := by
  have hids : ((tiers.map (·.movedBy order)).map (·.id)).Nodup := by
    rw [List.map_map]
    exact h
  rw [place, modifyFirst_eq_map o.id _ hids, List.map_map]
  apply List.map_congr_left
  intro t _
  by_cases hid : t.id = o.id
  · simp [PriceTier.movedBy, placeOf?_concat, hid]
  · simp [PriceTier.movedBy, placeOf?_concat, hid, Ne.symm hid]

/-- Carried out entry by entry, a new order moves every tier to its last place. -/
theorem reorder_eq (h : (s.tiers.map (·.id)).Nodup) (order : List TierOrder) :
    s.reorder order = { s with tiers := s.tiers.map (·.movedBy order) } := by
  have hfold : order.foldl place s.tiers = s.tiers.map (·.movedBy order) := by
    induction order using List.reverseRecOn with
    | nil =>
      have hstay : ∀ t ∈ s.tiers, t.movedBy [] = id t := fun t _ => rfl
      rw [List.map_congr_left hstay, List.map_id, List.foldl_nil]
    | append_singleton order o ih =>
      rw [List.foldl_append, ih, List.foldl_cons, List.foldl_nil]
      exact place_map_movedBy h order o
  rw [reorder, hfold]

theorem reorder_of_perm (h : (s.tiers.map (·.id)).Nodup) (hperm : order'.Perm order)
    (hnodup : (order.map (·.id)).Nodup) : s.reorder order' = s.reorder order := by
  rw [reorder_eq h, reorder_eq h]
  simp only [PriceTier.movedBy, placeOf?_of_perm hperm hnodup]

/-- With the inactive ones all tiers are listed. -/
theorem list_true_perm (s : TierTable) : (s.list true).Perm s.tiers := by
  have hall : s.tiers.filter (fun t => true || t.active) = s.tiers :=
    List.filter_eq_self.mpr fun t _ => Bool.true_or _
  exact hall ▸ list_perm s true

/-- Tiers of distinct indices are listed by strictly rising index. -/
theorem pairwise_lt_list (h : (s.tiers.map (·.orderIndex)).Nodup) (all : Bool) :
    (s.list all).Pairwise fun t u => t.orderIndex < u.orderIndex := by
  have hsorted : (s.list all).Pairwise fun t u => t.orderIndex ≤ u.orderIndex :=
    StableSort.pairwise_key_sort _ _
  have hdistinct : ((s.list all).map (·.orderIndex)).Nodup := by
    rw [((s.list_perm all).map (·.orderIndex)).nodup_iff]
    exact h.sublist (List.filter_sublist.map _)
  refine hsorted.imp₂ ?_ (List.pairwise_map.mp hdistinct)
  intro t u hle hne
  exact Int32.lt_of_le_of_ne hle hne

/-- A new order moves every tier to the place of its last entry and does nothing else. Entries for
different tiers may stand in any order. When every tier is given an index of its own, the tiers are
listed in the order of these indices. -/
theorem reorder_moves (s : TierTable) (order : List TierOrder)
    (hids : (s.tiers.map (·.id)).Nodup) :
    s.reorder order = { s with tiers := s.tiers.map fun t =>
      { t with orderIndex := (placeOf? order t.id).getD t.orderIndex } } ∧
    ((order.map (·.id)).Nodup → ∀ order', order'.Perm order →
      s.reorder order' = s.reorder order) ∧
    ((∀ t ∈ s.tiers, t.id ∈ order.map (·.id)) →
      (s.tiers.map fun t => placeOf? order t.id).Nodup →
      ((s.reorder order).list true).Perm (s.reorder order).tiers ∧
        (∀ t ∈ (s.reorder order).list true, placeOf? order t.id = some t.orderIndex) ∧
        ((s.reorder order).list true).Pairwise fun t u => t.orderIndex < u.orderIndex) := by
  refine ⟨reorder_eq hids order, fun hnodup order' hperm => reorder_of_perm hids hperm hnodup, ?_⟩
  intro hnamed hdistinct
  have hmoved : (s.reorder order).tiers = s.tiers.map (·.movedBy order) := by
    rw [reorder_eq hids order]
  have hplaces : (s.tiers.map fun t => placeOf? order t.id) =
      (s.reorder order).tiers.map (some ·.orderIndex) := by
    rw [hmoved, List.map_map]
    exact List.map_congr_left fun t ht => PriceTier.placeOf?_of_named (hnamed t ht)
  refine ⟨list_true_perm _, ?_, ?_⟩
  · intro t ht
    rw [(list_true_perm _).mem_iff, hmoved] at ht
    obtain ⟨t₀, ht₀, rfl⟩ := List.mem_map.mp ht
    exact PriceTier.placeOf?_of_named (hnamed t₀ ht₀)
  · apply pairwise_lt_list
    apply List.Nodup.of_map some
    rw [List.map_map]
    exact hplaces ▸ hdistinct

/-- The tiers of a new shop: one is named twice and one that is not there is named, and then all
change their places, whichever entry comes first. -/
theorem reorder_moves_seed :
    let s : TierTable := ⟨Seed.tiers, 4⟩
    let twice : List TierOrder := [⟨2, 7⟩, ⟨42, 0⟩, ⟨2, -1⟩]
    let reverse : List TierOrder := [⟨3, 30⟩, ⟨2, 20⟩, ⟨1, 10⟩]
    (s.reorder twice).tiers.map (fun t => (t.id, t.orderIndex)) = [(1, 3), (2, -1), (3, 1)] ∧
      s.reorder reverse.reverse = s.reorder reverse ∧
      ((s.reorder reverse).list true).Pairwise (fun t u => t.orderIndex < u.orderIndex) ∧
      ((s.reorder reverse).list true).map (·.id) = [1, 2, 3] := by
  intro s twice reverse
  have hids : (s.tiers.map (·.id)).Nodup := by decide
  refine ⟨?_, ?_, ?_, by decide +kernel⟩
  · rw [(reorder_moves s twice hids).1]
    decide +kernel
  · exact (reorder_moves s reverse hids).2.1 (by decide) _ (List.reverse_perm _)
  · exact ((reorder_moves s reverse hids).2.2 (by decide) (by decide)).2.2

end TierTable

end VolumePricing
