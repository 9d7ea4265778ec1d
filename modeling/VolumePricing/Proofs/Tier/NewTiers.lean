import VolumePricing.Proofs.Pricing.Selection
import VolumePricing.Proofs.Tier.DefaultFlag

/-!
# Where a new tier ranks

A tier that is created without an order index gets the one after the highest in
use, whoever set that and whether its tier is active or not. So the new tier is
listed last, and what another tier prices already it does not take over. Only
the highest word has no successor: behind a tier of that index none can be put.
-/

namespace VolumePricing

open PriceTier Checked

/-- The tier with the default flag that it is to have. -/
def PriceTier.flagged (flag : PriceTier → Bool) (t : PriceTier) : PriceTier :=
  { t with isDefault := flag t }

namespace TierTable

variable {s s' : TierTable} {t u created : PriceTier} {flag : PriceTier → Bool} {quantity : Int64}

/-! ### The next free index -/

theorem le_lastIndex (hu : u ∈ s.tiers) : u.orderIndex ≤ s.lastIndex := by
  unfold lastIndex
  cases hmax : (s.tiers.map (·.orderIndex)).max? with
  | none =>
    rw [List.max?_eq_none_iff, List.map_eq_nil_iff] at hmax
    rw [hmax] at hu
    cases hu
  | some top => exact (List.max?_eq_some_iff.mp hmax).2 _ (List.mem_map_of_mem hu)

theorem lastIndex_eq_maxValue :
    s.lastIndex = Int32.maxValue ↔ ∃ u ∈ s.tiers, u.orderIndex = Int32.maxValue := by
  constructor
  · intro h
    unfold lastIndex at h
    cases hmax : (s.tiers.map (·.orderIndex)).max? with
    | none =>
      rw [hmax] at h
      exact absurd h (by decide)
    | some top =>
      rw [hmax, Option.getD_some] at h
      obtain ⟨u, hu, htop⟩ := List.mem_map.mp (List.max?_mem hmax)
      exact ⟨u, hu, htop.trans h⟩
  · rintro ⟨u, hu, htop⟩
    have hle := le_lastIndex hu
    rw [htop] at hle
    exact Int32.le_antisymm (Int32.le_maxValue _) hle

/-- The next free index is above all that are in use. -/
theorem lt_of_indexFor {i : Int32} (hzero : t.orderIndex = 0) (h : s.indexFor t = .ok i)
    (hu : u ∈ s.tiers) : u.orderIndex < i := by
  rw [indexFor, if_pos hzero] at h
  have hsum := addInt32_eq_ok.mp h
  have hle := Int32.le_iff_toInt_le.mp (le_lastIndex hu)
  rw [Int32.toInt_one] at hsum
  rw [Int32.lt_iff_toInt_lt]
  omega

theorem overflows_create (hzero : t.orderIndex = 0) :
    Overflows (s.create t) ↔
      (∃ u ∈ s.tiers, u.orderIndex = Int32.maxValue) ∨ s.nextId.toNat + 1 = UInt32.size := by
  have hindex : s.indexFor t = addInt32 s.lastIndex 1 := if_pos hzero
  rw [← lastIndex_eq_maxValue, ← overflows_addInt32_one, ← overflows_addUInt32_one, ← hindex]
  unfold create
  rcases addUInt32 s.nextId 1 with o | nextId
  · simp [bind, Except.bind]
  · rcases s.indexFor t with o | i <;> simp [bind, Except.bind]

/-! ### One tier more -/

theorem clearDefaults_eq (keep : UInt32) (tiers : List PriceTier) :
    clearDefaults keep tiers =
      tiers.map (flagged fun u => if u.id = keep then u.isDefault else false) := by
  apply List.map_congr_left
  intro u _
  by_cases hid : u.id = keep
  · simp only [flagged, if_pos hid]
  · simp only [flagged, if_neg hid]

theorem create_appends (h : s.create t = .ok (created, s')) :
    ∃ flag, s'.tiers = s.tiers.map (flagged flag) ++ [created] := by
  obtain ⟨nextId, orderIndex, -, -, -, rfl⟩ := create_eq_ok h
  by_cases hdefault : t.isDefault = true
  · refine ⟨fun u => if u.id = s.nextId then u.isDefault else false, ?_⟩
    rw [if_pos hdefault, clearDefaults_eq]
  · have hstay : s.tiers.map (flagged (·.isDefault)) = s.tiers := List.map_id s.tiers
    exact ⟨(·.isDefault), by rw [if_neg hdefault, hstay]⟩

section Appended

variable (happend : s'.tiers = s.tiers.map (flagged flag) ++ [created])
  (hlast : ∀ u ∈ s.tiers, u.orderIndex ≤ created.orderIndex)
include happend hlast

theorem list_of_appends (all : Bool) :
    s'.list all = (s.list all).map (flagged flag) ++
      if all || created.active then [created] else [] := by
  have hmap : (s.tiers.map (flagged flag)).filter (fun t => all || t.active) =
      (s.tiers.filter fun t => all || t.active).map (flagged flag) := List.filter_map
  have hkey : ∀ u : PriceTier, (u.flagged flag).orderIndex = u.orderIndex := fun _ => rfl
  rw [list, list, happend, List.filter_append, hmap, ← StableSort.sort_map hkey,
    List.filter_singleton, cond_eq_ite]
  split
  · apply StableSort.sort_concat
    intro v hv
    obtain ⟨u, hu, rfl⟩ := List.mem_map.mp hv
    exact hlast u (List.mem_of_mem_filter hu)
  · rw [List.append_nil, List.append_nil]

/-- What is reached already comes first in the ranking as it did before. -/
theorem resolve_of_appends (hu : u ∈ s.tiers) (hactive : u.active = true)
    (hreached : u.reachedAt quantity = true) :
    (resolve s'.tiers quantity).map (·.id) = (resolve s.tiers quantity).map (·.id) := by
  have hranked : ranked s'.tiers =
      (ranked s.tiers).map (flagged flag) ++ if created.active then [created] else [] :=
    list_of_appends happend hlast false
  cases hfind : (ranked s.tiers).find? (·.reachedAt quantity) with
  | none =>
    have hout := find?_reachedAt_eq_none.mp hfind u hu hactive
    rw [hreached] at hout
    cases hout
  | some r =>
    -- The flag has no say in what is reached, and the new tier is asked last.
    have hmap : ((ranked s.tiers).map (flagged flag)).find? (·.reachedAt quantity) =
        some (r.flagged flag) := by
      rw [List.find?_map]
      exact congrArg (Option.map (flagged flag)) hfind
    have hfind' : (ranked s'.tiers).find? (·.reachedAt quantity) = some (r.flagged flag) := by
      rw [hranked, List.find?_append, hmap, Option.some_or]
    rw [resolve_of_find? hfind, resolve_of_find? hfind']
    rfl

end Appended

/-- The tier has been created from the one given and comes last: above all tiers that were there
before, at the end of the listing, and it prices no order that one of them was reached by. -/
structure RanksLast (s s' : TierTable) (t created : PriceTier) : Prop where
  made : created = { t with id := s.nextId, orderIndex := created.orderIndex }
  stored : created ∈ s'.tiers
  above : ∀ u ∈ s.tiers, u.orderIndex < created.orderIndex
  listed : (s'.list true).getLast? = some created
  undisturbed : ∀ all quantity,
    (∃ u ∈ s.tiers, u.active = true ∧ u.reachedAt quantity = true) →
    (resolve (s'.list all) quantity).map (·.id) = (resolve (s.list all) quantity).map (·.id)

theorem ranksLast_of_create (hzero : t.orderIndex = 0) (h : s.create t = .ok (created, s')) :
    s.RanksLast s' t created := by
  obtain ⟨flag, happend⟩ := create_appends h
  obtain ⟨-, orderIndex, -, hindex, hmade, -⟩ := create_eq_ok h
  have habove : ∀ u ∈ s.tiers, u.orderIndex < created.orderIndex := by
    intro u hu
    rw [hmade]
    exact lt_of_indexFor hzero hindex hu
  have hlast : ∀ u ∈ s.tiers, u.orderIndex ≤ created.orderIndex :=
    fun u hu => Int32.le_of_lt (habove u hu)
  refine ⟨by rw [hmade], by simp [happend], habove, ?_, ?_⟩
  · rw [list_of_appends happend hlast true]
    exact List.getLast?_concat
  · rintro all quantity ⟨u, hu, hactive, hreached⟩
    rw [resolve_congr (ranked_list s' all), resolve_congr (ranked_list s all)]
    exact resolve_of_appends happend hlast hu hactive hreached

end TierTable

/-- A tier without an order index can be created unless some tier has the highest index there is, or
no id is left. Then it comes last, and nothing else in the store changes. -/
theorem createTier_ranks_last (m : Memory) {t : PriceTier} (hzero : t.orderIndex = 0) :
    (Overflows (Memory.store.createTier t m) ↔
      (∃ u ∈ m.tiers.tiers, u.orderIndex = Int32.maxValue) ∨
        m.tiers.nextId.toNat + 1 = UInt32.size) ∧
    ∀ answer m', Memory.store.createTier t m = .ok (answer, m') →
      ∃ created, answer = .ok created ∧ m' = { m with tiers := m'.tiers } ∧
        m.tiers.RanksLast m'.tiers t created := by
  rw [Memory.run_createTier, overflows_map]
  refine ⟨TierTable.overflows_create hzero, ?_⟩
  intro answer m' h
  rcases hcreate : m.tiers.create t with o | ⟨created, tiers⟩ <;> rw [hcreate] at h <;> cases h
  exact ⟨created, rfl, rfl, TierTable.ranksLast_of_create hzero hcreate⟩

/-- A new shop is given a tier that is to be the default, and its prices stay as they are. -/
theorem createTier_ranks_last_seed :
    let m : Memory := ⟨⟨Seed.tiers, 4⟩, .ofProducts Seed.products, .empty⟩
    let vip : PriceTier := { name := "vip", displayName := "VIP", isDefault := true }
    vip.validate = .ok () ∧ ∃ created m', Memory.store.createTier vip m = .ok (.ok created, m') ∧
      (m'.tiers.list true).map (fun t => (t.id, t.orderIndex)) = [(3, 1), (2, 2), (1, 3), (4, 4)] ∧
      ∀ all quantity, 0 ≤ quantity → (resolve (m'.tiers.list all) quantity).map (·.id) =
        (resolve (m.tiers.list all) quantity).map (·.id) := by
  intro m vip
  refine ⟨by decide +kernel, ?_⟩
  obtain ⟨hover, hlast⟩ := createTier_ranks_last m (t := vip) rfl
  have hfits : ¬ Overflows (Memory.store.createTier vip m) := by
    rw [hover]
    decide +kernel
  rcases hrun : Memory.store.createTier vip m with o | ⟨answer, m'⟩
  · exact absurd ⟨o, hrun⟩ hfits
  · obtain ⟨created, rfl, -, hranks⟩ := hlast answer m' hrun
    refine ⟨created, m', rfl, ?_, ?_⟩
    · cases hrun
      decide +kernel
    · intro all quantity hquantity
      refine hranks.undisturbed all quantity ⟨Seed.tiers[0], ?_, rfl, ?_⟩
      · decide +kernel
      · exact decide_eq_true hquantity

end VolumePricing
