import VolumePricing.Proofs.Tier.Validity

/-!
# The order of updates

Two updates of one tier that give it no field in common may be made in either
order, and an update that is made again changes nothing. Across tiers the
updates meet in the default flag only, which an update that moves it takes from
all other tiers: as long as no two updates make a tier the default, that can be
done before or after the others.
-/

namespace VolumePricing

/-- What an update may give. -/
inductive TierField
  | name
  | displayName
  | formula
  | multiplier
  | percentage
  | flatAmount
  | minQuantity
  | orderIndex
  | active
  | description
  | isDefault
  | showInPublic
  | colorCode
  deriving DecidableEq, Repr

namespace TierUpdate

variable {u v : TierUpdate} {t : PriceTier}

/-- The update has the field, whatever comes of its value. -/
def gives (u : TierUpdate) : TierField → Bool
  | .name => u.name.isSome
  | .displayName => u.displayName.isSome
  | .formula => u.formula.isSome
  | .multiplier => u.multiplier.isSome
  | .percentage => u.percentage.isSome
  | .flatAmount => u.flatAmount.isSome
  | .minQuantity => u.minQuantity.isSome
  | .orderIndex => u.orderIndex.isSome
  | .active => u.active.isSome
  | .description => u.description.isSome
  | .isDefault => u.isDefault.isSome
  | .showInPublic => u.showInPublic.isSome
  | .colorCode => u.colorCode.isSome

/-- The updates have no field in common. -/
def Apart (u v : TierUpdate) : Prop := ∀ f, u.gives f = false ∨ v.gives f = false

theorem Apart.symm (h : u.Apart v) : v.Apart u := fun f => (h f).symm

section Overlay

variable {α : Type} {a b : Option α}

theorem getD_getD_comm (h : a.isSome = false ∨ b.isSome = false) (x : α) :
    a.getD (b.getD x) = b.getD (a.getD x) := by
  simp only [Option.isSome_eq_false_iff, Option.isNone_iff_eq_none] at h
  rcases h with rfl | rfl <;> rfl

theorem getD_filter_comm (p : α → Bool) (h : a.isSome = false ∨ b.isSome = false) (x : α) :
    (a.filter p).getD ((b.filter p).getD x) = (b.filter p).getD ((a.filter p).getD x) := by
  apply getD_getD_comm
  rcases h with h | h
  · left
    cases a <;> simp_all
  · right
    cases b <;> simp_all

theorem getD_getD_self (a : Option α) (x : α) : a.getD (a.getD x) = a.getD x := by
  cases a <;> rfl

end Overlay

theorem applyTo_comm (h : u.Apart v) (t : PriceTier) :
    u.applyTo (v.applyTo t) = v.applyTo (u.applyTo t) := by
  simp only [applyTo, textOr, PriceTier.mk.injEq, true_and]
  exact ⟨getD_filter_comm _ (h .name) _, getD_filter_comm _ (h .displayName) _,
    getD_filter_comm _ (h .formula) _, getD_getD_comm (h .multiplier) _,
    getD_getD_comm (h .percentage) _, getD_getD_comm (h .flatAmount) _,
    getD_getD_comm (h .minQuantity) _, getD_filter_comm _ (h .orderIndex) _,
    getD_getD_comm (h .active) _, getD_filter_comm _ (h .description) _,
    getD_getD_comm (h .isDefault) _, getD_getD_comm (h .showInPublic) _,
    getD_filter_comm _ (h .colorCode) _⟩

theorem applyTo_applyTo (u : TierUpdate) (t : PriceTier) :
    u.applyTo (u.applyTo t) = u.applyTo t := by
  simp only [applyTo, textOr, getD_getD_self]

end TierUpdate

namespace TierTable

open TierUpdate

variable {u v : TierUpdate} {id id' : UInt32} {tiers : List PriceTier} {t : PriceTier}
  {s : TierTable}

/-- Both updates make a tier the default, or they give one tier the same field. -/
def Compete (id : UInt32) (u : TierUpdate) (id' : UInt32) (v : TierUpdate) : Prop :=
  u.isDefault = some true ∧ v.isDefault = some true ∨
    id = id' ∧ ∃ f, u.gives f = true ∧ v.gives f = true

theorem apart_of_not_compete (h : ¬ Compete id u id v) : u.Apart v := by
  intro f
  by_contra hboth
  simp only [not_or, Bool.not_eq_false] at hboth
  exact h (Or.inr ⟨rfl, f, hboth⟩)

/-- Puts the fields of an update into the first tier of that id. -/
def edit (s : TierTable) (id : UInt32) (u : TierUpdate) : TierTable :=
  { s with tiers := modifyFirst (·.id == id) u.applyTo s.tiers }

/-- The table that an update of the tier `t` puts its fields into: the default flag may have to be
taken from the others. -/
def readied (s : TierTable) (id : UInt32) (u : TierUpdate) (t : PriceTier) : TierTable :=
  if movesDefault u t then { s with tiers := clearDefaults id s.tiers } else s

theorem update_of_get? (h : s.get? id = some t) (u : TierUpdate) :
    s.update id u = .ok (u.applyTo t, (s.readied id u t).edit id u) := by
  rw [update, h, readied]
  by_cases hmoves : movesDefault u t = true
  · simp only [if_pos hmoves, edit]
  · simp only [if_neg hmoves, edit]

theorem call_update (h : s.get? id = some t) (u : TierUpdate) :
    s.call (.update id u) = .ok (.ok ((s.readied id u t).edit id u)) := by
  rw [call, update_of_get? h]
  rfl

theorem readied_of_ne (h : v.isDefault ≠ some true) (s : TierTable) (id : UInt32) (t : PriceTier) :
    s.readied id v t = s := by
  simp [readied, movesDefault, h]

theorem get?_isSome : (s.get? id).isSome ↔ id ∈ s.tiers.map (·.id) := by
  simp [get?]

theorem get?_edit (h : s.get? id = some t) (id' : UInt32) (v : TierUpdate) :
    (s.edit id' v).get? id = some (if id = id' then v.applyTo t else t) := by
  by_cases hid : id = id'
  · subst hid
    rw [if_pos rfl, get?, edit, find?_modifyFirst (fun t => by rw [v.id_applyTo])]
    exact congrArg (Option.map v.applyTo) h
  · rw [if_neg hid, get?, edit, find?_modifyFirst_of_disjoint]
    · exact h
    · intro x hx
      have hne : x.id ≠ id := by
        intro heq
        exact hid (heq.symm.trans (beq_iff_eq.mp hx))
      simp [hne]

theorem edit_comm (h : id = id' → u.Apart v) (s : TierTable) :
    (s.edit id' v).edit id u = (s.edit id u).edit id' v := by
  simp only [edit, mk.injEq, and_true]
  apply modifyFirst_comm
  · exact fun t => by rw [v.id_applyTo]
  · exact fun t => by rw [u.id_applyTo]
  · intro t hid hid'
    exact applyTo_comm (h ((beq_iff_eq.mp hid).symm.trans (beq_iff_eq.mp hid'))) t

theorem edit_edit (s : TierTable) (id : UInt32) (u : TierUpdate) :
    (s.edit id u).edit id u = s.edit id u := by
  simp only [edit, mk.injEq, and_true]
  rw [modifyFirst_modifyFirst fun t => by rw [u.id_applyTo]]
  congr 1
  exact funext u.applyTo_applyTo

/-- An update that makes no tier the default may be made before or after the others lose the
flag. -/
theorem clearDefaults_modifyFirst (h : v.isDefault ≠ some true) (keep id : UInt32)
    (tiers : List PriceTier) :
    clearDefaults keep (modifyFirst (·.id == id) v.applyTo tiers) =
      modifyFirst (·.id == id) v.applyTo (clearDefaults keep tiers) := by
  apply map_modifyFirst_comm
  · intro t
    split <;> rfl
  · intro t
    by_cases hkeep : t.id = keep
    · simp [hkeep]
    · have hflag : v.isDefault.getD false = false := by
        rcases hv : v.isDefault with _ | _ | _ <;> simp_all
      simp [hkeep, applyTo, hflag]

theorem readied_edit (h : v.isDefault ≠ some true) (s : TierTable) (id id' : UInt32)
    (u : TierUpdate) (t : PriceTier) :
    (s.edit id' v).readied id u t = (s.readied id u t).edit id' v := by
  unfold readied
  split
  · simp only [edit, clearDefaults_modifyFirst h]
  · rfl

/-! ### Two updates in either order -/

/-- The calls may be made in either order: none is refused, and the same table comes of it. -/
def Interchange (s : TierTable) (c d : TierCall) : Prop :=
  ∃ s₁ s₂ s', s.call c = .ok (.ok s₁) ∧ s₁.call d = .ok (.ok s') ∧
    s.call d = .ok (.ok s₂) ∧ s₂.call c = .ok (.ok s')

theorem Interchange.symm {c d : TierCall} (h : s.Interchange c d) : s.Interchange d c := by
  obtain ⟨s₁, s₂, s', hc, hcd, hd, hdc⟩ := h
  exact ⟨s₂, s₁, s', hd, hdc, hc, hcd⟩

/-- An update that leaves the flag alone does not matter to one that may move it. -/
theorem movesDefault_of_apart (h : u.Apart v) (t : PriceTier) :
    movesDefault u (v.applyTo t) = movesDefault u t := by
  rcases h .isDefault with hnone | hnone
  · have hu : u.isDefault = none := by simpa [gives] using hnone
    simp [movesDefault, hu]
  · have hv : v.isDefault = none := by simpa [gives] using hnone
    simp [movesDefault, applyTo, hv]

theorem interchange_of_ne (hv : v.isDefault ≠ some true) (happart : id = id' → u.Apart v)
    (hid : (s.get? id).isSome) (hid' : (s.get? id').isSome) :
    s.Interchange (.update id u) (.update id' v) := by
  obtain ⟨t, ht⟩ := Option.isSome_iff_exists.mp hid
  obtain ⟨t', ht'⟩ := Option.isSome_iff_exists.mp hid'
  have hu := call_update ht u
  have hsecond := hid'
  rw [get?_isSome, ← (ids_update (update_of_get? ht u)).1, ← get?_isSome] at hsecond
  obtain ⟨t₁, ht₁⟩ := Option.isSome_iff_exists.mp hsecond
  refine ⟨_, _, _, hu, call_update ht₁ v, call_update ht' v, ?_⟩
  rw [readied_of_ne hv, readied_of_ne hv, call_update (get?_edit ht id' v) u]
  have hmoves : movesDefault u (if id = id' then v.applyTo t else t) = movesDefault u t := by
    split
    · exact movesDefault_of_apart (happart ‹_›) t
    · rfl
  have hreadied : (s.edit id' v).readied id u (if id = id' then v.applyTo t else t) =
      (s.readied id u t).edit id' v := by
    rw [← readied_edit hv, readied, hmoves]
    rfl
  rw [hreadied, edit_comm happart]

theorem interchange_of_not_compete (h : ¬ Compete id u id' v) (hid : (s.get? id).isSome)
    (hid' : (s.get? id').isSome) : s.Interchange (.update id u) (.update id' v) := by
  by_cases hv : v.isDefault = some true
  · -- Then `u` is the one that makes no tier the default.
    have hu : u.isDefault ≠ some true := fun hu => h (Or.inl ⟨hu, hv⟩)
    refine (interchange_of_ne hu ?_ hid' hid).symm
    rintro rfl
    exact (apart_of_not_compete h).symm
  · refine interchange_of_ne hv ?_ hid hid'
    rintro rfl
    exact apart_of_not_compete h

/-- The tier that has been updated is not made the default once more. -/
theorem movesDefault_applyTo (u : TierUpdate) (t : PriceTier) :
    movesDefault u (u.applyTo t) = false := by
  rcases hu : u.isDefault with _ | _ | _ <;> simp [movesDefault, applyTo, hu]

/-- An update that is made again gives the same tier and the same table. -/
theorem update_again (h : s.get? id = some t) (u : TierUpdate) :
    ∃ s', s.update id u = .ok (u.applyTo t, s') ∧ s'.update id u = .ok (u.applyTo t, s') := by
  refine ⟨_, update_of_get? h u, ?_⟩
  have hfound : (s.readied id u t).get? id = some t := by
    unfold readied
    split
    · exact (find?_clearDefaults id s.tiers).trans h
    · exact h
  have hagain := get?_edit hfound id u
  rw [if_pos rfl] at hagain
  rw [update_of_get? hagain, u.applyTo_applyTo]
  rw [readied, movesDefault_applyTo, if_neg Bool.false_ne_true, edit_edit]

end TierTable

/-! ### In a store -/

open TierTable

variable {m m₁ m₂ : Memory}

theorem TierCall.on_memory_of_call {c : TierCall} {tiers : TierTable}
    (h : m.tiers.call c = .ok (.ok tiers)) :
    c.on Memory.store m = .ok (.ok (), { m with tiers }) := by
  rw [TierCall.on_memory, h]

theorem TierCall.runAll_pair {c d : TierCall} (hc : c.on Memory.store m = .ok (.ok (), m₁))
    (hd : d.on Memory.store m₁ = .ok (.ok (), m₂)) :
    TierCall.runAll Memory.store [c, d] m = .ok ([.ok (), .ok ()], m₂) := by
  refine mapM_cons_eq_ok.mpr ⟨_, _, _, hc, ?_, rfl⟩
  exact mapM_cons_eq_ok.mpr ⟨_, _, _, hd, rfl, rfl⟩

/-- Updates of tiers that are there can be made in either order unless they compete, and every
update can be made twice. -/
theorem updateTier_in_any_order (m : Memory) :
    (∀ id id' u v, (m.tiers.get? id).isSome → (m.tiers.get? id').isSome → ¬ Compete id u id' v →
      ∃ m', TierCall.runAll Memory.store [.update id u, .update id' v] m =
          .ok ([.ok (), .ok ()], m') ∧
        TierCall.runAll Memory.store [.update id' v, .update id u] m =
          .ok ([.ok (), .ok ()], m')) ∧
    ∀ id u, ∃ answer m', Memory.store.updateTier id u m = .ok (answer, m') ∧
      Memory.store.updateTier id u m' = .ok (answer, m') ∧
      answer.isOk = (m.tiers.get? id).isSome := by
  constructor
  · intro id id' u v hid hid' hcompete
    obtain ⟨s₁, s₂, s', hu, huv, hv, hvu⟩ := interchange_of_not_compete hcompete hid hid'
    refine ⟨{ m with tiers := s' }, ?_, ?_⟩
    · apply TierCall.runAll_pair (TierCall.on_memory_of_call hu)
      exact TierCall.on_memory_of_call huv
    · apply TierCall.runAll_pair (TierCall.on_memory_of_call hv)
      exact TierCall.on_memory_of_call hvu
  · intro id u
    simp only [Memory.run_updateTier]
    cases hget : m.tiers.get? id with
    | none =>
      have hmissing : m.tiers.update id u = .error (.tierMissing id) := by rw [update, hget]
      rw [hmissing]
      exact ⟨.error (.tierMissing id), m, rfl, by rw [hmissing], rfl⟩
    | some t =>
      obtain ⟨s', hfirst, hagain⟩ := update_again hget u
      rw [hfirst]
      exact ⟨.ok (u.applyTo t), { m with tiers := s' }, rfl, by rw [hagain], rfl⟩

/-- The flag moves to the third tier while the first one, which had it, is renamed. -/
theorem updateTier_in_any_order_seed :
    let m : Memory := ⟨⟨Seed.tiers, 4⟩, .ofProducts Seed.products, .empty⟩
    let move : TierUpdate := { isDefault := some true, minQuantity := some 10 }
    let rename : TierUpdate := { displayName := some "Retail", isDefault := some false }
    (∃ m', TierCall.runAll Memory.store [.update 3 move, .update 1 rename] m =
        .ok ([.ok (), .ok ()], m') ∧
      TierCall.runAll Memory.store [.update 1 rename, .update 3 move] m =
        .ok ([.ok (), .ok ()], m')) ∧
    ∃ answer m', Memory.store.updateTier 3 move m = .ok (answer, m') ∧
      Memory.store.updateTier 3 move m' = .ok (answer, m') ∧ answer.isOk = true := by
  intro m move rename
  obtain ⟨hpairs, htwice⟩ := updateTier_in_any_order m
  constructor
  · apply hpairs 3 1 move rename rfl rfl
    rintro (⟨-, hrename⟩ | ⟨hid, -⟩)
    · cases hrename
    · exact absurd hid (by decide)
  · exact htwice 3 move

end VolumePricing
