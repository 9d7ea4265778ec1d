import VolumePricing.Proofs.Tier.DefaultFlag

/-!
# Tiers that validate

A tier is validated before it is created. An update is not: it passes over an
empty name and an unknown formula, and so never takes them from a tier, but it
takes every other name as it is given. A name of blanks is not empty, and the
tier that is given it does not validate any more.
-/

namespace VolumePricing

open VolumePricing.Text

namespace PriceTier

theorem validate_eq_ok {t : PriceTier} :
    t.validate = .ok () ↔
      isBlank t.name = false ∧ isBlank t.displayName = false ∧ t.formula.isKnown = true := by
  unfold validate
  split
  · rename_i h
    simp only [Bool.or_eq_true] at h
    rcases h with h | h <;> simp [h]
  · rename_i h
    simp only [Bool.or_eq_true, not_or, Bool.not_eq_true] at h
    cases t.formula with
    | other tag => by_cases htag : tag = "" <;> simp [htag, Formula.isKnown]
    | _ => simp [h, Formula.isKnown]

/-- The tier has a known formula and names that are not empty. -/
structure Named (t : PriceTier) : Prop where
  formula : t.formula.isKnown = true
  name : t.name ≠ ""
  displayName : t.displayName ≠ ""

theorem named_of_validate {t : PriceTier} (h : t.validate = .ok ()) : t.Named := by
  obtain ⟨hname, hdisplay, hformula⟩ := validate_eq_ok.mp h
  refine ⟨hformula, fun hempty => ?_, fun hempty => ?_⟩
  · simp [hempty] at hname
  · simp [hempty] at hdisplay

/-- The property is not about the default flag of a tier, nor about its place among the others. -/
structure Steady (P : PriceTier → Prop) : Prop where
  unflagged : ∀ {t : PriceTier}, P t → P { t with isDefault := false }
  placed : ∀ {t : PriceTier} (i : Int32), P t → P { t with orderIndex := i }

end PriceTier

namespace TierUpdate

variable {u : TierUpdate} {t : PriceTier}

/-- A name is given that is blank without being empty. -/
def BlanksName (u : TierUpdate) : Prop :=
  ∃ name, (u.name = some name ∨ u.displayName = some name) ∧ name ≠ "" ∧ isBlank name = true

theorem textOr_ne_empty {old : String} (new : Option String) (h : old ≠ "") :
    textOr new old ≠ "" := by
  unfold textOr
  cases hnew : new.filter (· ≠ "") with
  | none => exact h
  | some text =>
    rw [Option.filter_eq_some_iff] at hnew
    simpa using hnew.2

/-- In the place of a text that is not blank, only a blank text that is given can stand. -/
theorem isBlank_textOr {old : String} (new : Option String) (h : isBlank old = false) :
    isBlank (textOr new old) = true ↔
      ∃ text, new = some text ∧ text ≠ "" ∧ isBlank text = true := by
  cases new with
  | none => simp [textOr, h]
  | some text => by_cases htext : text = "" <;> simp [textOr, Option.filter, htext, h]

theorem isKnown_applyTo (h : t.formula.isKnown = true) : (u.applyTo t).formula.isKnown = true := by
  change ((u.formula.filter (·.isKnown)).getD t.formula).isKnown = true
  cases hnew : u.formula.filter (·.isKnown) with
  | none => exact h
  | some formula =>
    rw [Option.filter_eq_some_iff] at hnew
    exact hnew.2

theorem named_applyTo (h : t.Named) : (u.applyTo t).Named where
  formula := isKnown_applyTo h.formula
  name := textOr_ne_empty u.name h.name
  displayName := textOr_ne_empty u.displayName h.displayName

/-- An update leaves a tier that validates, unless it gives it a blank name. -/
theorem validate_applyTo (h : t.validate = .ok ()) :
    (u.applyTo t).validate = .ok () ↔ ¬ u.BlanksName := by
  obtain ⟨hname, hdisplay, hformula⟩ := PriceTier.validate_eq_ok.mp h
  have hnames : u.BlanksName ↔
      isBlank (u.applyTo t).name = true ∨ isBlank (u.applyTo t).displayName = true := by
    change _ ↔ isBlank (textOr u.name t.name) = true ∨
      isBlank (textOr u.displayName t.displayName) = true
    rw [isBlank_textOr u.name hname, isBlank_textOr u.displayName hdisplay, ← exists_or]
    simp only [BlanksName, or_and_right]
  rw [PriceTier.validate_eq_ok, hnames]
  simp [isKnown_applyTo hformula]

end TierUpdate

namespace TierTable

variable {P : PriceTier → Prop} {s s' : TierTable} {t updated : PriceTier} {id : UInt32}
  {u : TierUpdate}

/-- The property holds of every tier. -/
def All (P : PriceTier → Prop) (s : TierTable) : Prop := ∀ t ∈ s.tiers, P t

/-- The tier of an id after an update of that id. -/
theorem get?_update (ht : s.get? id = some t) :
    ∃ s', s.update id u = .ok (u.applyTo t, s') ∧ s'.get? id = some (u.applyTo t) := by
  have hfound : (if movesDefault u t then clearDefaults id s.tiers else s.tiers).find? (·.id == id) =
      some t := by
    split
    · rw [find?_clearDefaults]
      exact ht
    · exact ht
  unfold update
  rw [ht]
  refine ⟨_, rfl, ?_⟩
  rw [get?, find?_modifyFirst fun t => by rw [u.id_applyTo], hfound]
  rfl

section Steady

variable (hP : PriceTier.Steady P) (hs : s.All P)
include hP hs

theorem all_clearDefaults (keep : UInt32) : ∀ t ∈ clearDefaults keep s.tiers, P t := by
  intro t ht
  obtain ⟨t₀, ht₀, rfl⟩ := List.mem_map.mp ht
  split
  · exact hs t₀ ht₀
  · exact hP.unflagged (hs t₀ ht₀)

theorem All.create (hnew : ∀ id i, P { t with id, orderIndex := i })
    (h : s.create t = .ok (updated, s')) : s'.All P := by
  obtain ⟨nextId, orderIndex, -, -, rfl, rfl⟩ := create_eq_ok h
  intro t' ht'
  rcases List.mem_append.mp ht' with hold | hcreated
  · split at hold
    · exact all_clearDefaults hP hs _ t' hold
    · exact hs t' hold
  · rw [List.mem_singleton] at hcreated
    exact hcreated ▸ hnew _ _

theorem All.update (hnew : ∀ t, t.id = id → P t → P (u.applyTo t))
    (h : s.update id u = .ok (updated, s')) : s'.All P := by
  obtain ⟨t₀, -, -, -, htiers⟩ := update_eq_ok h
  have hbefore : ∀ t ∈ (if movesDefault u t₀ then clearDefaults id s.tiers else s.tiers), P t := by
    split
    · exact all_clearDefaults hP hs id
    · exact hs
  intro t' ht'
  rw [htiers] at ht'
  rcases mem_modifyFirst ht' with hold | ⟨t, ht, hid, rfl⟩
  · exact hbefore t' hold
  · exact hnew t (by simpa using hid) (hbefore t ht)

omit hP in
theorem All.delete (h : s.delete id = .ok s') : s'.All P := by
  obtain ⟨t, -, -, rfl⟩ := delete_eq_ok h
  exact fun t' ht' => hs t' (List.mem_of_mem_eraseP ht')

theorem All.reorder (order : List TierOrder) : (s.reorder order).All P := by
  unfold TierTable.reorder
  induction order generalizing s with
  | nil => exact hs
  | cons o order ih =>
    refine ih (s := { s with tiers := place s.tiers o }) fun t' ht' => ?_
    rcases mem_modifyFirst ht' with hold | ⟨t, ht, -, rfl⟩
    · exact hs t' hold
    · exact hP.placed _ (hs t ht)

end Steady

end TierTable

namespace Memory

variable {m m' : Memory} {id : UInt32} {u : TierUpdate} {t new : PriceTier}

theorem updateTier_of_get? (ht : m.tiers.get? id = some t) (u : TierUpdate) :
    ∃ tiers, store.updateTier id u m = .ok (.ok (u.applyTo t), { m with tiers }) ∧
      tiers.get? id = some (u.applyTo t) := by
  obtain ⟨tiers, hupdate, hget⟩ := TierTable.get?_update (u := u) ht
  exact ⟨tiers, by rw [run_updateTier, hupdate], hget⟩

/-- The answer to an update is what it makes of the stored tier, and is stored in its place. -/
theorem updateTier_eq_ok (h : store.updateTier id u m = .ok (.ok new, m')) :
    ∃ t, m.tiers.get? id = some t ∧ new = u.applyTo t ∧ m'.tiers.get? id = some new := by
  rw [run_updateTier] at h
  rcases hupdate : m.tiers.update id u with e | ⟨updated, tiers⟩ <;> rw [hupdate] at h <;> cases h
  obtain ⟨t, ht, rfl, -, -⟩ := TierTable.update_eq_ok hupdate
  obtain ⟨s', hs', hget⟩ := TierTable.get?_update (u := u) ht
  rw [hupdate] at hs'
  cases hs'
  exact ⟨t, ht, rfl, hget⟩

end Memory

end VolumePricing
