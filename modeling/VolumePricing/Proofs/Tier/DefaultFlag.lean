import VolumePricing.Proofs.FirstMatch
import VolumePricing.Proofs.Tier.Calls
import VolumePricing.Store.Seed

/-!
# One default tier

Ids are distinct and below the next one to be given out, so a tier that is
made the default is the only one left with the flag. Every call keeps the number
of default tiers, makes it one, or lowers it by an update that unsets the flag;
hence there is never a second default tier, and one that is there stays until
such an update.
-/

namespace VolumePricing

namespace TierTable

/-- The ids of the tiers are distinct, and the next id is above them. -/
structure Numbered (s : TierTable) : Prop where
  nodup : (s.tiers.map (·.id)).Nodup
  lt_nextId : ∀ id ∈ s.tiers.map (·.id), id < s.nextId

/-- How many tiers carry the default flag. -/
def defaults (s : TierTable) : ℕ := s.tiers.countP (·.isDefault)

theorem Numbered.eq_of_id {s : TierTable} (h : s.Numbered) {t t' : PriceTier}
    (ht : t ∈ s.tiers) (ht' : t' ∈ s.tiers) (hid : t.id = t'.id) : t = t' :=
  List.inj_on_of_nodup_map h.nodup ht ht' hid

/-! ## What the calls do -/

/-- The id that the tiers of a new table leave free stands above theirs. -/
theorem lt_nextId_of_ofTiers {tiers : List PriceTier} {s : TierTable}
    (h : ofTiers tiers = .ok s) : ∀ id ∈ tiers.map (·.id), id < s.nextId := by
  intro id hid
  have hnext : Checked.addUInt32 ((tiers.map (·.id)).max?.getD 0) 1 = .ok s.nextId := by
    unfold ofTiers at h
    rcases hn : Checked.addUInt32 ((tiers.map (·.id)).max?.getD 0) 1 with o | nextId
    · simp [hn, bind, Except.bind] at h
    · simp only [hn, bind, Except.bind] at h
      cases h
      exact hn
  rcases hmax : (tiers.map (·.id)).max? with _ | top
  · simp_all
  · have hle := UInt32.le_iff_toNat_le.mp ((List.max?_eq_some_iff.mp hmax).2 id hid)
    have hsum := Checked.addUInt32_eq_ok.mp hnext
    rw [hmax, Option.getD_some, UInt32.toNat_one] at hsum
    rw [UInt32.lt_iff_toNat_lt]
    omega

theorem ofTiers_eq_ok {tiers : List PriceTier}
    (hlt : ∀ t ∈ tiers, t.id.toNat + 1 < UInt32.size) :
    ∃ s, ofTiers tiers = .ok s ∧ s.tiers = tiers ∧ ∀ id ∈ tiers.map (·.id), id < s.nextId := by
  let highest := (tiers.map (·.id)).max?.getD 0
  have hroom : highest.toNat + 1 < UInt32.size := by
    rcases hmax : (tiers.map (·.id)).max? with _ | id
    · simp [highest, hmax, UInt32.size]
    · obtain ⟨t, ht, rfl⟩ := List.mem_map.mp (List.max?_mem hmax)
      simpa [highest, hmax] using hlt t ht
  have hnext : Checked.addUInt32 highest 1 = .ok (UInt32.ofNat (highest.toNat + 1)) :=
    Checked.addUInt32_eq_ok.mpr (UInt32.toNat_ofNat_of_lt' hroom)
  have hopen : ofTiers tiers = .ok ⟨tiers, UInt32.ofNat (highest.toNat + 1)⟩ := by
    change (Checked.addUInt32 highest 1 >>= fun nextId => pure (TierTable.mk tiers nextId)) = _
    rw [hnext]
    rfl
  exact ⟨_, hopen, rfl, lt_nextId_of_ofTiers hopen⟩

/-- A tier that is created gets the next id, which is used up with it. -/
theorem create_eq_ok {s s' : TierTable} {t created : PriceTier}
    (h : s.create t = .ok (created, s')) :
    ∃ nextId orderIndex, nextId.toNat = s.nextId.toNat + 1 ∧ s.indexFor t = .ok orderIndex ∧
      created = { t with id := s.nextId, orderIndex } ∧
      s' = ⟨(if t.isDefault then clearDefaults s.nextId s.tiers else s.tiers) ++ [created],
        nextId⟩ := by
  unfold create at h
  rcases hn : Checked.addUInt32 s.nextId 1 with o | nextId
  · simp [hn, bind, Except.bind] at h
  rcases hi : s.indexFor t with o | orderIndex
  · simp [hn, hi, bind, Except.bind] at h
  simp only [hn, hi, bind, Except.bind, pure, Except.pure, Except.ok.injEq, Prod.mk.injEq] at h
  obtain ⟨rfl, rfl⟩ := h
  exact ⟨nextId, orderIndex, Checked.addUInt32_eq_ok.mp hn, rfl, rfl, rfl⟩

/-- Giving an id away changes no tier. -/
theorem tiers_numbered (s : TierTable) : s.numbered.tiers = s.tiers := by
  unfold numbered
  split <;> rfl

/-- A tier that is created uses up an id, as one does that overflows after it. -/
theorem nextId_of_create {s s' : TierTable} {t created : PriceTier}
    (h : s.create t = .ok (created, s')) : s'.nextId = s.numbered.nextId := by
  obtain ⟨nextId, -, hnext, -, -, rfl⟩ := create_eq_ok h
  have hgiven : Checked.addUInt32 s.nextId 1 = .ok nextId := Checked.addUInt32_eq_ok.mpr hnext
  rw [numbered, hgiven]

theorem update_eq_ok {s s' : TierTable} {id : UInt32} {u : TierUpdate} {updated : PriceTier}
    (h : s.update id u = .ok (updated, s')) :
    ∃ t, s.get? id = some t ∧ updated = u.applyTo t ∧
      s'.nextId = s.nextId ∧ s'.tiers = modifyFirst (·.id == id) u.applyTo
        (if movesDefault u t then clearDefaults id s.tiers else s.tiers) := by
  unfold update at h
  rcases hg : s.get? id with _ | t
  · simp [hg] at h
  · simp only [hg, Except.ok.injEq, Prod.mk.injEq] at h
    obtain ⟨rfl, rfl⟩ := h
    exact ⟨t, rfl, rfl, rfl, rfl⟩

theorem delete_eq_ok {s s' : TierTable} {id : UInt32} (h : s.delete id = .ok s') :
    ∃ t, s.get? id = some t ∧ t.isDefault = false ∧
      s' = { s with tiers := s.tiers.eraseP (·.id == id) } := by
  unfold delete at h
  rcases hg : s.get? id with _ | t
  · simp [hg] at h
  · rcases hd : t.isDefault
    · simp only [hg, hd, Bool.false_eq_true, if_false, Except.ok.injEq] at h
      exact ⟨t, rfl, hd, h.symm⟩
    · simp [hg, hd] at h

/-! ## Ids -/

@[simp] theorem map_id_clearDefaults (keep : UInt32) (tiers : List PriceTier) :
    (clearDefaults keep tiers).map (·.id) = tiers.map (·.id) := by
  rw [clearDefaults, List.map_map]
  apply List.map_congr_left
  intro t _
  simp only [Function.comp_apply]
  split <;> rfl

/-- A new order changes no reading of the tiers that leaves the order index aside. -/
theorem map_reorder {β : Type} {g : PriceTier → β}
    (hg : ∀ (t : PriceTier) (i : Int32), g { t with orderIndex := i } = g t)
    (s : TierTable) (order : List TierOrder) : (s.reorder order).tiers.map g = s.tiers.map g := by
  simp only [reorder]
  induction order generalizing s with
  | nil => rfl
  | cons o order ih =>
    rw [List.foldl_cons, ih { s with tiers := place s.tiers o }]
    exact map_modifyFirst (by intro t; exact hg t o.orderIndex) s.tiers

theorem ids_create {s s' : TierTable} {t created : PriceTier} (h : s.create t = .ok (created, s')) :
    s'.tiers.map (·.id) = s.tiers.map (·.id) ++ [s.nextId] ∧ s.nextId < s'.nextId := by
  obtain ⟨nextId, orderIndex, hnext, -, rfl, rfl⟩ := create_eq_ok h
  constructor
  · rw [List.map_append]
    split <;> simp
  · have hlt : s.nextId.toNat < nextId.toNat := by omega
    exact UInt32.lt_iff_toNat_lt.mpr hlt

theorem ids_update {s s' : TierTable} {id : UInt32} {u : TierUpdate} {updated : PriceTier}
    (h : s.update id u = .ok (updated, s')) :
    s'.tiers.map (·.id) = s.tiers.map (·.id) ∧ s'.nextId = s.nextId := by
  obtain ⟨t, -, -, hnext, htiers⟩ := update_eq_ok h
  refine ⟨?_, hnext⟩
  rw [htiers, map_modifyFirst (u.id_applyTo ·)]
  split <;> simp

theorem ids_delete {s s' : TierTable} {id : UInt32} (h : s.delete id = .ok s') :
    (s'.tiers.map (·.id)).Sublist (s.tiers.map (·.id)) ∧ s'.nextId = s.nextId := by
  obtain ⟨t, -, -, rfl⟩ := delete_eq_ok h
  exact ⟨List.eraseP_sublist.map _, rfl⟩

/-- A call keeps the ids or takes some out, or it puts the next one behind them and uses it up. -/
theorem ids_call {s s' : TierTable} {c : TierCall} (h : s.call c = .ok (.ok s')) :
    (s'.tiers.map (·.id)).Sublist (s.tiers.map (·.id)) ∧ s'.nextId = s.nextId ∨
      s'.tiers.map (·.id) = s.tiers.map (·.id) ++ [s.nextId] ∧ s.nextId < s'.nextId := by
  cases c with
  | create t =>
    obtain ⟨created, hc⟩ := call_create_eq_ok.mp h
    exact Or.inr (ids_create hc)
  | update id u =>
    obtain ⟨updated, hu⟩ := call_update_eq_ok.mp h
    obtain ⟨hids, hnext⟩ := ids_update hu
    exact Or.inl ⟨hids ▸ List.Sublist.refl _, hnext⟩
  | delete id =>
    simp only [TierTable.call, Except.ok.injEq] at h
    exact Or.inl (ids_delete h)
  | reorder order =>
    simp only [TierTable.call, Except.ok.injEq] at h
    subst h
    exact Or.inl ⟨map_reorder (g := (·.id)) (fun _ _ => rfl) s order ▸ List.Sublist.refl _, rfl⟩

theorem Numbered.call {s s' : TierTable} {c : TierCall} (hs : s.Numbered)
    (h : s.call c = .ok (.ok s')) : s'.Numbered := by
  rcases ids_call h with ⟨hsub, hnext⟩ | ⟨hids, hstep⟩
  · constructor
    · exact hs.nodup.sublist hsub
    · intro id hid
      rw [hnext]
      exact hs.lt_nextId id (hsub.subset hid)
  · constructor
    · rw [hids]
      apply hs.nodup.append (List.nodup_singleton _)
      intro id hid hnew
      rw [List.mem_singleton] at hnew
      exact absurd (hnew ▸ hs.lt_nextId id hid) (UInt32.lt_irrefl _)
    · rw [hids]
      intro id hid
      rcases List.mem_append.mp hid with hid | hid
      · exact UInt32.lt_trans (hs.lt_nextId id hid) hstep
      · rw [List.mem_singleton] at hid
        exact hid ▸ hstep

/-! ## Default tiers -/

/-- Clearing spares only the tiers with the id kept. -/
theorem countP_clearDefaults {keep : UInt32} {tiers : List PriceTier}
    (h : ∀ t ∈ tiers, t.id = keep → t.isDefault = false) :
    (clearDefaults keep tiers).countP (·.isDefault) = 0 := by
  rw [List.countP_eq_zero]
  intro t ht
  obtain ⟨t₀, ht₀, rfl⟩ := List.mem_map.mp ht
  split
  · rename_i hid
    simp [h t₀ ht₀ hid]
  · simp

theorem find?_clearDefaults (keep : UInt32) (tiers : List PriceTier) :
    (clearDefaults keep tiers).find? (·.id == keep) = tiers.find? (·.id == keep) := by
  induction tiers with
  | nil => rfl
  | cons t ts ih =>
    by_cases ht : t.id = keep
    · simp [clearDefaults, ht]
    · simpa [clearDefaults, ht] using ih

theorem defaults_create {s s' : TierTable} {t created : PriceTier} (hs : s.Numbered)
    (h : s.create t = .ok (created, s')) :
    s'.defaults = if t.isDefault then 1 else s.defaults := by
  obtain ⟨nextId, orderIndex, -, -, rfl, rfl⟩ := create_eq_ok h
  cases ht : t.isDefault
  · simp [defaults]
  · -- No tier has the id that is given out, so all of them are cleared.
    have hclear : (clearDefaults s.nextId s.tiers).countP (·.isDefault) = 0 :=
      countP_clearDefaults fun t₀ ht₀ hid =>
        absurd (hid ▸ hs.lt_nextId t₀.id (List.mem_map_of_mem ht₀)) (UInt32.lt_irrefl _)
    simp [defaults, hclear]

theorem defaults_update {s s' : TierTable} {id : UInt32} {u : TierUpdate} {updated : PriceTier}
    (hs : s.Numbered) (h : s.update id u = .ok (updated, s')) :
    s'.defaults = s.defaults ∨ s'.defaults = 1 ∨
      (u.isDefault = some false ∧ s'.defaults ≤ s.defaults) := by
  obtain ⟨t, ht, -, -, htiers⟩ := update_eq_ok h
  have htmem : t ∈ s.tiers := List.mem_of_find?_eq_some ht
  have htid : t.id = id := by simpa using List.find?_some ht
  cases hm : movesDefault u t
  · -- Nothing is cleared, and the count moves with the flag of the one tier.
    have hcount := countP_modifyFirst (f := u.applyTo) (·.isDefault) ht
    rw [hm, if_neg Bool.false_ne_true] at htiers
    simp only [defaults, htiers]
    rcases hu : u.isDefault with _ | _ | _
    · simp only [TierUpdate.applyTo, hu, Option.getD_none] at hcount
      omega
    · simp only [TierUpdate.applyTo, hu, Option.getD_some, Bool.false_eq_true, if_false] at hcount
      exact Or.inr (Or.inr ⟨rfl, by omega⟩)
    · have hd : t.isDefault = true := by simpa [movesDefault, hu] using hm
      simp only [TierUpdate.applyTo, hu, Option.getD_some, hd, if_true] at hcount
      omega
  · -- Every tier of another id is cleared, and the tier itself had no flag.
    simp only [movesDefault, Bool.and_eq_true, beq_iff_eq, Bool.not_eq_true'] at hm
    have hclear : (clearDefaults id s.tiers).countP (·.isDefault) = 0 :=
      countP_clearDefaults fun t₀ ht₀ hid => hs.eq_of_id ht₀ htmem (hid.trans htid.symm) ▸ hm.2
    have hcount := countP_modifyFirst (f := u.applyTo) (·.isDefault)
      ((find?_clearDefaults id s.tiers).trans ht)
    have hset : (u.applyTo t).isDefault = true := by simp [TierUpdate.applyTo, hm.1]
    rw [hclear, hm.2, hset] at hcount
    simp only [Bool.false_eq_true, if_false, if_true] at hcount
    rw [show movesDefault u t = true by simp [movesDefault, hm], if_pos rfl] at htiers
    simp only [defaults, htiers]
    omega

theorem defaults_delete {s s' : TierTable} {id : UInt32} (h : s.delete id = .ok s') :
    s'.defaults = s.defaults := by
  obtain ⟨t, ht, hd, rfl⟩ := delete_eq_ok h
  have hcount := countP_eraseP (·.isDefault) ht
  simp only [hd, Bool.false_eq_true, if_false] at hcount
  exact hcount

theorem defaults_reorder (s : TierTable) (order : List TierOrder) :
    (s.reorder order).defaults = s.defaults := by
  have hflags := map_reorder (g := (·.isDefault)) (fun _ _ => rfl) s order
  simpa [defaults, List.countP_map, Function.comp_def] using congrArg (List.countP id) hflags

end TierTable

/-- The call unsets the default flag by name. -/
def TierCall.unsetsDefault : TierCall → Bool
  | .update _ u => u.isDefault == some false
  | _ => false

namespace TierTable

/-- A call keeps the number of default tiers, makes it one, or lowers it because it unsets
the flag. -/
theorem defaults_call {s s' : TierTable} {c : TierCall} (hs : s.Numbered)
    (h : s.call c = .ok (.ok s')) :
    s'.defaults = s.defaults ∨ s'.defaults = 1 ∨
      (c.unsetsDefault = true ∧ s'.defaults ≤ s.defaults) := by
  cases c with
  | create t =>
    obtain ⟨created, hc⟩ := call_create_eq_ok.mp h
    rw [defaults_create hs hc]
    split <;> simp
  | update id u =>
    obtain ⟨updated, hu⟩ := call_update_eq_ok.mp h
    simpa [TierCall.unsetsDefault] using defaults_update hs hu
  | delete id =>
    simp only [TierTable.call, Except.ok.injEq] at h
    exact Or.inl (defaults_delete h)
  | reorder order =>
    simp only [TierTable.call, Except.ok.injEq] at h
    exact Or.inl (h ▸ defaults_reorder s order)

end TierTable

/-- In a store that opens with distinct ids and at most one default tier there is never a second
one, whatever calls are made. One that is there at first is never lost before an update unsets
the flag. -/
theorem runAll_defaults {tiers : List PriceTier} (products : List Product)
    (hids : (tiers.map (·.id)).Nodup) (hlt : ∀ t ∈ tiers, t.id.toNat + 1 < UInt32.size)
    (hone : tiers.countP (·.isDefault) ≤ 1) :
    ∃ m₀, Memory.holding tiers products = .ok m₀ ∧
      ∀ calls answers m, TierCall.runAll Memory.store calls m₀ = .ok (answers, m) →
        m.tiers.defaults ≤ 1 ∧
          (tiers.countP (·.isDefault) = 1 → (∀ c ∈ calls, c.unsetsDefault = false) →
            m.tiers.defaults = 1) := by
  obtain ⟨s₀, hopen, hsame, hbelow⟩ := TierTable.ofTiers_eq_ok hlt
  have hnumbered : s₀.Numbered := ⟨hsame ▸ hids, hsame ▸ hbelow⟩
  have hdefaults : s₀.defaults = tiers.countP (·.isDefault) := by rw [TierTable.defaults, hsame]
  refine ⟨⟨s₀, .ofProducts products, .empty⟩, ?_, fun calls answers m hrun => ⟨?_, ?_⟩⟩
  · simp only [Memory.holding, hopen]
    rfl
  · -- The invariant of the run: numbered, and at most one default tier.
    refine (mapM_keeps (P := fun m => m.tiers.Numbered ∧ m.tiers.defaults ≤ 1)
      (fun c _ m answer m' hm hc => ?_) ⟨hnumbered, hdefaults ▸ hone⟩ hrun).2
    refine TierCall.on_memory_keeps (P := fun s => s.Numbered ∧ s.defaults ≤ 1) ?_ hm hc
    rintro s s' ⟨hs, hle⟩ hcall
    refine ⟨hs.call hcall, ?_⟩
    rcases TierTable.defaults_call hs hcall with h | h | ⟨-, h⟩ <;> omega
  · intro hexactly hkeep
    refine (mapM_keeps (P := fun m => m.tiers.Numbered ∧ m.tiers.defaults = 1)
      (fun c hmem m answer m' hm hc => ?_) ⟨hnumbered, hdefaults.trans hexactly⟩ hrun).2
    refine TierCall.on_memory_keeps (P := fun s => s.Numbered ∧ s.defaults = 1) ?_ hm hc
    rintro s s' ⟨hs, heq⟩ hcall
    refine ⟨hs.call hcall, ?_⟩
    rcases TierTable.defaults_call hs hcall with h | h | ⟨h, -⟩
    · exact h.trans heq
    · exact h
    · exact absurd h (by simp [hkeep c hmem])

/-- The flag moves to a new tier and on to an old one, which then cannot be deleted. -/
def Seed.flagMoves : List TierCall :=
  [.create { name := "vip", isDefault := true }, .update 3 { isDefault := some true },
    .reorder [⟨1, 1⟩, ⟨3, 3⟩], .delete 1, .delete 3]

theorem runAll_defaults_seed :
    ∃ m₀ answers m, Memory.holding Seed.tiers Seed.products = .ok m₀ ∧
      TierCall.runAll Memory.store Seed.flagMoves m₀ = .ok (answers, m) ∧ m.tiers.defaults = 1 := by
  obtain ⟨m₀, hopen, hrun⟩ :=
    runAll_defaults Seed.products (by decide : (Seed.tiers.map (·.id)).Nodup) (by decide)
      (by decide)
  obtain ⟨⟨answers, m⟩, hm⟩ : ∃ p, TierCall.runAll Memory.store Seed.flagMoves m₀ = .ok p := by
    cases hopen
    exact ⟨_, rfl⟩
  exact ⟨m₀, answers, m, hopen, hm, (hrun _ _ _ hm).2 (by decide) (by decide)⟩

end VolumePricing
