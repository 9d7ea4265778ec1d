import Mathlib
import VolumePricing.Database.Tiers
import VolumePricing.Decimal.Numeral

/-!
# Which column a parameter is written to

The parameters of a statement are numbered, and its text says which column each
of them is for. Read by that text, the values sent for a tier make the row of
the tier: every column of a tier gets its own value, in the insertion as well
as in the replacement.
-/

namespace VolumePricing

namespace Formula

/-- The formula is not a known one that is written as another. -/
def Canonical (f : Formula) : Prop := ofTag f.tag = f

theorem canonical_ofTag (tag : String) : (ofTag tag).Canonical := by
  rw [Canonical, tag_ofTag]

theorem canonical_of_isKnown {f : Formula} (h : f.isKnown = true) : f.Canonical :=
  ofTag_tag_of_isKnown h

/-- Formulas that are read from a message are canonical. -/
theorem canonical_of_decode {j : Json} {f : Formula} (h : decode j = .ok f) : f.Canonical := by
  change (decode j).map ofTag = .ok f at h
  cases htag : (decode j : Except _ String) with
  | error e =>
    rw [htag] at h
    cases h
  | ok tag =>
    rw [htag] at h
    cases h
    exact canonical_ofTag tag

end Formula

theorem TierUpdate.canonical_applyTo {t : PriceTier} (h : t.formula.Canonical) (u : TierUpdate) :
    (u.applyTo t).formula.Canonical := by
  change ((u.formula.filter (·.isKnown)).getD t.formula).Canonical
  cases hnew : u.formula.filter (·.isKnown) with
  | none => exact h
  | some f =>
    rw [Option.filter_eq_some_iff] at hnew
    exact Formula.canonical_of_isKnown hnew.2

namespace Database

/-! ### The text of a statement -/

/-- The words of a statement; commas and brackets stand between words as blanks do. -/
def words (sql : String) : List (List Char) :=
  (sql.toList.splitOnP ([' ', ',', '(', ')'].contains ·)).filter (· ≠ [])

/-- The number of a parameter. -/
def parameter? : List Char → Option ℕ
  | '$' :: digits => some (Decimal.digitsValue digits)
  | _ => none

/-- The columns that are set to a parameter or compared with one, with its number. -/
def assignments : List (List Char) → List (List Char × ℕ)
  | column :: ['='] :: word :: rest =>
    (parameter? word).toList.map (column, ·) ++ assignments (['='] :: word :: rest)
  | _ :: rest => assignments rest
  | [] => []

/-- The columns of a statement that take a parameter, each with the number of the parameter. An
insertion names them first and the parameters in the same order. -/
def parameters (sql : String) : List (List Char × ℕ) :=
  let ws := words sql
  if ws.take 1 = ["INSERT".toList] then
    ((ws.drop 3).takeWhile (· ≠ "VALUES".toList)).zip
      ((ws.dropWhile (· ≠ "VALUES".toList)).filterMap parameter?)
  else assignments ws

/-- The values sent with a statement, each under the column that it is for. -/
def written (sql : String) (params : List Datum) : Row :=
  (parameters sql).filterMap fun p => (params[p.2 - 1]?).map (.ofList p.1, ·)

def tierFields : List String :=
  ["name", "display_name", "formula_type", "multiplier", "percentage", "flat_amount", "min_quantity",
    "order_index", "active", "description", "is_default", "show_in_public", "color_code"]

-- A text is opened into its characters piece by piece; computing them from its bytes takes long.
theorem parameters_insertTier : parameters insertTier = (tierFields.map (·.toList)).zipIdx 1 := by
  unfold parameters words insertTier tierColumns tierFields
  repeat rw [String.toList_append]
  simp only [List.map_cons]
  repeat rw [String.toList_ofList]
  decide +kernel

theorem parameters_replaceTier :
    parameters replaceTier = ((tierFields ++ ["id"]).map (·.toList)).zipIdx 1 := by
  unfold parameters words replaceTier tierFields
  repeat rw [String.toList_append]
  simp only [List.map_cons, List.cons_append]
  repeat rw [String.toList_ofList]
  decide +kernel

/-! ### The row of a tier -/

/-- A column reads the same wherever it stands, as long as no other has its name. -/
theorem column?_append_single {α : Type} {r : Row} {name : String} {d : Datum}
    (h : name ∉ r.map (·.1)) (read : Datum → Option α) (other : String) :
    Row.column? (r ++ [(name, d)]) read other = Row.column? ((name, d) :: r) read other := by
  have hlookup : (r ++ [(name, d)]).lookup other = ((name, d) :: r).lookup other := by
    rw [List.lookup_append, List.lookup_cons, List.lookup_cons]
    by_cases hname : other = name
    · have hnone : r.lookup other = none := by
        rw [List.lookup_eq_none_iff]
        intro p hp
        have hne : p.1 ≠ name := by
          intro heq
          exact h (heq ▸ List.mem_map_of_mem hp)
        simpa [hname] using hne.symm
      simp [hname, hname ▸ hnone]
    · have hbeq : (other == name) = false := by simpa using hname
      simp [hbeq]
  rw [Row.column?, Row.column?, hlookup]

section Tier

variable (id : UInt32) (t : PriceTier)

theorem written_insertTier : written insertTier (tierValues t) = tierFields.zip (tierValues t) := by
  rw [written, parameters_insertTier]
  rfl

theorem written_replaceTier :
    written replaceTier (tierValues t ++ [.ofId id]) =
      tierFields.zip (tierValues t) ++ [("id", .ofId id)] := by
  rw [written, parameters_replaceTier]
  rfl

/-- What is inserted for a tier is its row, whatever id it is given. -/
theorem tierOfRow?_insertTier :
    tierOfRow? (("id", .ofId id) :: written insertTier (tierValues t)) =
      some { t with id, formula := .ofTag t.formula.tag } := by
  rw [written_insertTier]
  change (Datum.ofId id).id? >>= _ = _
  rw [Datum.id?_ofId]
  change (Datum.ofInt64 t.minQuantity).int64? >>= _ = _
  rw [Datum.int64?_ofInt64]
  change (Datum.ofInt32 t.orderIndex).int32? >>= _ = _
  rw [Datum.int32?_ofInt32]
  rfl

/-- What a tier is replaced with is its row. -/
theorem tierOfRow?_replaceTier :
    tierOfRow? (written replaceTier (tierValues t ++ [.ofId id])) =
      some { t with id, formula := .ofTag t.formula.tag } := by
  rw [← tierOfRow?_insertTier, written_insertTier, written_replaceTier]
  have hid : "id" ∉ (tierFields.zip (tierValues t)).map (·.1) := by
    change "id" ∉ tierFields
    decide
  unfold tierOfRow?
  simp only [column?_append_single hid]

/-- A row is never read as a tier whose formula is a known one written as another. -/
theorem canonical_of_tierOfRow? {r : Row} {t : PriceTier} (h : tierOfRow? r = some t) :
    t.formula.Canonical := by
  unfold tierOfRow? at h
  -- The fourteen columns, one after another.
  iterate 14 obtain ⟨_, -, h⟩ := Option.bind_eq_some_iff.mp h
  cases h
  exact Formula.canonical_ofTag _

end Tier

/-- The row that a database keeps of a tier. -/
def rowOf (t : PriceTier) : Row := ("id", .ofId t.id) :: written insertTier (tierValues t)

theorem tierOfRow?_rowOf {t : PriceTier} (h : t.formula.Canonical) : tierOfRow? (rowOf t) = some t := by
  rw [rowOf, tierOfRow?_insertTier, h]

end Database

end VolumePricing
