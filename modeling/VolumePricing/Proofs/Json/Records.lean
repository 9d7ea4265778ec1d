import Mathlib
import VolumePricing.Json.Decode
import VolumePricing.Proofs.FirstMatch

/-!
# Records, written and read

A record that is written as an object of its fields, in their order and without some that may be
absent, is read with the members it was written with. In the other direction a record that is read
has, under the name of each field, what was written there: in an object the member of that name, in
an array the item in the place of the field.
-/

namespace VolumePricing

namespace Json

mutual

/-- Every number in the value denotes a finite one. -/
def finite : Json → Bool
  | .int n => (Float.ofInt n).isFinite
  | .real x => x.isFinite
  | .array items => finiteItems items
  | .object members => finiteMembers members
  | .misnamed value => value.finite
  | _ => true

def finiteItems : List Json → Bool
  | [] => true
  | j :: js => j.finite && finiteItems js

def finiteMembers : List (String × Json) → Bool
  | [] => true
  | m :: ms => m.2.finite && finiteMembers ms

end

theorem finite_of_mem_items {items : List Json} (h : finiteItems items = true) {j : Json}
    (hj : j ∈ items) : j.finite = true := by
  induction items with
  | nil => cases hj
  | cons i items ih =>
    rw [finiteItems, Bool.and_eq_true] at h
    rcases List.mem_cons.mp hj with rfl | hj
    · exact h.1
    · exact ih h.2 hj

theorem finite_of_mem_members {members : List (String × Json)} (h : finiteMembers members = true)
    {m : String × Json} (hm : m ∈ members) : m.2.finite = true := by
  induction members with
  | nil => cases hm
  | cons i members ih =>
    rw [finiteMembers, Bool.and_eq_true] at h
    rcases List.mem_cons.mp hm with rfl | hm
    · exact h.1
    · exact ih h.2 hm

/-- What is written under the name of a field. -/
def written? (fields : List Field) (name : String) : Json → Option Json
  | .object members => members.lookup name
  | .array items => ((fields.map (·.name)).zip items).lookup name
  | _ => none

/-- The second value says what the first says; a number may have become a double. -/
inductive Restates : Json → Json → Prop
  | same (j : Json) : Restates j j
  | double (n : ℤ) : Restates (.int n) (.real (Float.ofInt n))

end Json

namespace Record

variable {fields : List Field} {members : List (String × Json)} {seen r : Record}

/-- The members are fields in their order, each with a value it takes. Where a field is left out, it
may be absent. -/
inductive Writes : List Field → List (String × Json) → Prop
  | nil : Writes [] []
  | cons {f : Field} {fields : List Field} {j : Json} {members : List (String × Json)}
      (h : f.check j = .ok ()) (hrest : Writes fields members) :
      Writes (f :: fields) ((f.name, j) :: members)
  | skip {f : Field} {fields : List Field} {members : List (String × Json)}
      (h : f.absence ≠ .never) (hrest : Writes fields members) : Writes (f :: fields) members

/-- A value that can be read is one that its field takes. -/
theorem Writes.of {α : Type} [FromJson α] {name : String} {absence : Absence} {j : Json} {a : α}
    (h : decode j = .ok a) (hrest : Writes fields members) :
    Writes (.of α name absence :: fields) ((name, j) :: members) := by
  have hcheck : (Field.of α name absence).check j = .ok () := by
    change (decode j : Decoded α).map _ = _
    rw [h]
    rfl
  exact .cons hcheck hrest

theorem ofMembers_of_writes {before rest : List Field} (hnames : (fields.map (·.name)).Nodup)
    (h : Writes rest members) (hfields : fields = before ++ rest)
    (hseen : ∀ m ∈ seen, ∃ f ∈ before, f.name = m.1)
    (hpresent : ∀ f ∈ before, f.absence = .never → seen.has f.name = true) :
    ofMembers fields seen members = .ok (seen ++ members) := by
  induction h generalizing before seen with
  | nil =>
    rw [List.append_nil] at hfields
    subst hfields
    have hall : (fields.all fun f => f.absence ≠ .never || seen.has f.name) = true := by
      rw [List.all_eq_true]
      intro f hf
      by_cases hnever : f.absence = .never
      · simp [hpresent f hf hnever]
      · simp [hnever]
    rw [ofMembers, if_pos hall, List.append_nil]
  | @cons f rest j members hcheck _ ih =>
    have hmem : f ∈ fields := hfields ▸ List.mem_append_right _ List.mem_cons_self
    have hfind : (fields.find? fun g => g.name == f.name) = some f :=
      find?_key_eq_of_mem hnames hmem
    -- no name comes twice, so the field has not been seen
    have hnew : seen.has f.name = false := by
      rw [has, List.any_eq_false]
      intro m hm heq
      obtain ⟨g, hg, hname⟩ := hseen m hm
      rw [hfields, List.map_append, List.nodup_append] at hnames
      exact hnames.2.2 g.name (List.mem_map_of_mem hg) f.name
        (List.mem_map_of_mem List.mem_cons_self) (hname.trans (eq_of_beq heq))
    simp only [ofMembers, hfind, hnew, Bool.false_eq_true, if_false, hcheck]
    rw [@ih _ (before ++ [f]) (by simp [hfields]), List.append_assoc]
    · rfl
    · intro m hm
      rcases List.mem_append.mp hm with hm | hm
      · obtain ⟨g, hg, hname⟩ := hseen m hm
        exact ⟨g, List.mem_append_left _ hg, hname⟩
      · rw [List.mem_singleton.mp hm]
        exact ⟨f, List.mem_append_right _ List.mem_cons_self, rfl⟩
    · intro g hg hnever
      rcases List.mem_append.mp hg with hg | hg
      · have hold := hpresent g hg hnever
        simp only [has, List.any_append, Bool.or_eq_true] at hold ⊢
        exact Or.inl hold
      · rw [List.mem_singleton.mp hg]
        simp [has]
  | @skip f rest members habsent _ ih =>
    refine @ih _ (before ++ [f]) (by simp [hfields]) (fun m hm => ?_) fun g hg hnever => ?_
    · obtain ⟨g, hg, hname⟩ := hseen m hm
      exact ⟨g, List.mem_append_left _ hg, hname⟩
    · rcases List.mem_append.mp hg with hg | hg
      · exact hpresent g hg hnever
      · rw [List.mem_singleton.mp hg] at hnever
        exact absurd hnever habsent

/-- A record is read with the members it was written with. -/
theorem read_object (hnames : (fields.map (·.name)).Nodup) (h : Writes fields members) :
    read fields (.object members) = .ok members :=
  @ofMembers_of_writes fields members [] [] fields hnames h rfl (fun _ hm => by cases hm)
    fun _ hf => by cases hf

theorem ofMembers_eq_ok (h : ofMembers fields seen members = .ok r) :
    r = seen ++ members.filter fun m => fields.any (·.name == m.1) := by
  induction members generalizing seen with
  | nil =>
    unfold ofMembers at h
    split at h <;> cases h
    rw [List.filter_nil, List.append_nil]
  | cons m members ih =>
    obtain ⟨name, j⟩ := m
    unfold ofMembers at h
    cases hfind : fields.find? fun f => f.name == name with
    | none =>
      have hno : (fields.any (·.name == name)) = false := by
        rw [List.any_eq_false]
        exact List.find?_eq_none.mp hfind
      simp only [hfind] at h
      split at h
      · rw [List.filter_cons_of_neg (by simp [hno]), ih h]
      · cases h
    | some f =>
      have hyes : (fields.any (·.name == name)) = true :=
        List.any_eq_true.mpr ⟨f, List.mem_of_find?_eq_some hfind,
          List.find?_some (p := fun f : Field => f.name == name) hfind⟩
      simp only [hfind] at h
      split at h
      · cases h
      · split at h
        · cases h
        · rw [List.filter_cons_of_pos (by simp [hyes]), ih h, List.append_assoc]
          rfl

theorem ofItems_eq_ok {items : List Json} (h : ofItems fields items = .ok r) :
    r = (fields.map (·.name)).zip items := by
  induction fields generalizing items r with
  | nil =>
    cases items <;> cases h
    rfl
  | cons f fields ih =>
    cases items with
    | nil =>
      unfold ofItems at h
      split at h
      · rw [ih h, List.zip_nil_right, List.zip_nil_right]
      · cases h
    | cons j items =>
      unfold ofItems at h
      split at h
      · cases h
      · cases hrest : ofItems fields items with
        | error e =>
          rw [hrest] at h
          cases h
        | ok rest =>
          rw [hrest] at h
          cases h
          rw [ih hrest]
          rfl

/-- A record that is read has under the name of a field what was written there. -/
theorem lookup_of_read {j : Json} {f : Field} (h : read fields j = .ok r) (hf : f ∈ fields) :
    r.lookup f.name = j.written? fields f.name := by
  cases j with
  | object members =>
    rw [ofMembers_eq_ok h, List.nil_append]
    exact lookup_filter (p := fun name => fields.any (·.name == name))
      (List.any_eq_true.mpr ⟨f, hf, beq_self_eq_true f.name⟩) members
  | array items => rw [ofItems_eq_ok h, Json.written?]
  | _ => cases h

theorem finite_of_written {j v : Json} {name : String} (h : j.finite = true)
    (hv : j.written? fields name = some v) : v.finite = true := by
  cases j with
  | object members =>
    rw [Json.finite] at h
    exact Json.finite_of_mem_members h (mem_of_lookup_eq_some hv)
  | array items =>
    rw [Json.finite] at h
    exact Json.finite_of_mem_items h (List.of_mem_zip (mem_of_lookup_eq_some hv)).2
  | _ => cases hv

end Record

end VolumePricing
