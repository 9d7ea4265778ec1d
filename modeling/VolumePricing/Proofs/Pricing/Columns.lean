import Mathlib
import VolumePricing.Pricing.Columns
import VolumePricing.Store.Seed

/-!
# Who fills a price column

The columns are filled tier by tier in the order of the list, and a later tier
overwrites an earlier one. So a column holds the price of the last active tier
that means it, by its name or, under a name that means no column, by its place
in the ranking. A tier named after a column is outdone by one that only has the
column's place when that one stands behind it.
-/

namespace VolumePricing

variable {tiers ahead behind : List PriceTier} {t : PriceTier} {c : PriceColumn}

namespace PriceColumn

/-- The name that means the column. -/
def name : PriceColumn → String
  | .wholesale => "wholesale"
  | .discount1 => "discount1"
  | .discount2 => "discount2"

/-- The order index that means the column under any other name. -/
def index : PriceColumn → Int32
  | .wholesale => 3
  | .discount1 => 2
  | .discount2 => 1

/-- The names that mean a column. -/
def names : List String := [wholesale.name, discount1.name, discount2.name]

theorem name_mem_names (c : PriceColumn) : c.name ∈ names := by
  cases c <;> simp [names]

theorem ofName?_eq_some_iff {text : String} : ofName? text = some c ↔ text = c.name := by
  unfold ofName?
  cases c <;> repeat' split
  all_goals simp_all [name]

theorem ofName?_eq_none_iff {text : String} : ofName? text = none ↔ text ∉ names := by
  unfold ofName?
  repeat' split
  all_goals simp_all [names, name]

theorem ofIndex?_eq_some_iff {i : Int32} : ofIndex? i = some c ↔ i = c.index := by
  unfold ofIndex?
  cases c <;> repeat' split
  all_goals simp_all [index]

end PriceColumn

namespace PriceTier

/-- The tier means the column by its place alone. -/
def isPlacedAt (c : PriceColumn) (t : PriceTier) : Bool :=
  decide (t.name ∉ PriceColumn.names) && decide (t.orderIndex = c.index)

/-- The active tiers that mean the column by their place alone. -/
def placedAt (c : PriceColumn) (tiers : List PriceTier) : List PriceTier :=
  tiers.filter fun t => t.active && t.isPlacedAt c

/-- No column is named by two active tiers. -/
def NamedOnce (tiers : List PriceTier) : Prop :=
  ∀ c : PriceColumn, tiers.countP (fun t => t.active && decide (t.name = c.name)) ≤ 1

theorem column?_eq_some_iff :
    t.column? = some c ↔ t.name = c.name ∨ t.isPlacedAt c = true := by
  unfold column?
  cases hname : PriceColumn.ofName? t.name with
  | none =>
    have hno := PriceColumn.ofName?_eq_none_iff.mp hname
    have hne : t.name ≠ c.name := fun h => hno (h ▸ c.name_mem_names)
    simp [isPlacedAt, hno, hne, PriceColumn.ofIndex?_eq_some_iff]
  | some d =>
    have hd := PriceColumn.ofName?_eq_some_iff.mp hname
    have hin : t.name ∈ PriceColumn.names := hd ▸ d.name_mem_names
    rw [← PriceColumn.ofName?_eq_some_iff, hname]
    simp [isPlacedAt, hin]

end PriceTier

open PriceTier

@[simp] theorem ProductPrices.get_legacy (cost : Float) (c : PriceColumn) :
    (legacy cost).get c = cost * c.multiplier := by
  cases c <;> rfl

/-! ### The last tier to fill a column -/

/-- What one tier more at the end of the list does to a column. -/
theorem get_productPrices_concat (cost : Float) (tiers : List PriceTier) (t : PriceTier)
    (c : PriceColumn) :
    (productPrices cost (tiers ++ [t])).get c =
      if t.active = true ∧ t.column? = some c then t.price cost
      else (productPrices cost tiers).get c := by
  unfold productPrices
  rw [List.filter_append, List.foldl_append]
  cases hactive : t.active with
  | false => simp [hactive]
  | true =>
    rw [List.filter_cons_of_pos hactive, List.filter_nil, List.foldl_cons, List.foldl_nil]
    cases hcolumn : t.column? with
    | none => simp
    | some d =>
      by_cases hd : d = c
      · simp [hd]
      · simp [hd, ProductPrices.get_set_of_ne (Ne.symm hd)]

theorem get_productPrices (cost : Float) (tiers : List PriceTier) (c : PriceColumn) :
    (productPrices cost tiers).get c =
      (tiers.filter fun t => t.active && decide (t.column? = some c)).getLast?.elim
        (cost * c.multiplier) (·.price cost) := by
  induction tiers using List.reverseRecOn with
  | nil => exact ProductPrices.get_legacy cost c
  | append_singleton tiers t ih =>
    rw [get_productPrices_concat, List.filter_append]
    by_cases h : t.active = true ∧ t.column? = some c
    · rw [if_pos h]
      simp [h]
    · rw [if_neg h, ih, List.filter_cons_of_neg (by simpa using h), List.filter_nil, List.append_nil]

/-- Where no active tier has the name of the column, its place is what counts. -/
theorem filter_column?_of_unnamed
    (h : ∀ t ∈ tiers, t.active = true → t.name ≠ c.name) :
    (tiers.filter fun t => t.active && decide (t.column? = some c)) = placedAt c tiers := by
  apply List.filter_congr
  intro t ht
  cases hactive : t.active with
  | false => simp only [Bool.false_and]
  | true =>
    have hne := h t ht hactive
    simp [column?_eq_some_iff, hne]

theorem PriceTier.NamedOnce.unnamed_behind (h : NamedOnce (ahead ++ t :: behind))
    (hactive : t.active = true) (hname : t.name = c.name) :
    ∀ u ∈ behind, u.active = true → u.name ≠ c.name := by
  intro u hu huactive huname
  have hcount := h c
  have hpos : 0 < behind.countP fun u => u.active && decide (u.name = c.name) := by
    apply List.countP_pos_iff.mpr
    exact ⟨u, hu, by simp [huactive, huname]⟩
  rw [List.countP_append, List.countP_cons_of_pos (by simp [hactive, hname])] at hcount
  omega

/-- What each column holds: the price of the tier of its name unless that is overwritten from
behind, and without such a tier the price of the last one at its place. -/
theorem productPrices_last_wins (hnames : NamedOnce tiers) (cost : Float) (c : PriceColumn) :
    (∀ ahead t behind, tiers = ahead ++ t :: behind → t.active = true → t.name = c.name →
      (productPrices cost tiers).get c = ((placedAt c behind).getLast?.getD t).price cost) ∧
    ((∀ t ∈ tiers, t.active = true → t.name ≠ c.name) →
      (productPrices cost tiers).get c =
        (placedAt c tiers).getLast?.elim (cost * c.multiplier) (·.price cost)) := by
  constructor
  · rintro ahead t behind rfl hactive hname
    have hfills : (t.active && decide (t.column? = some c)) = true := by
      simp [hactive, column?_eq_some_iff, hname]
    have hbehind := filter_column?_of_unnamed (hnames.unnamed_behind hactive hname)
    rw [get_productPrices, List.filter_append, List.filter_cons, if_pos hfills, hbehind,
      List.getLast?_append, List.getLast?_cons, Option.some_or, Option.elim_some]
  · intro hunnamed
    rw [get_productPrices, filter_column?_of_unnamed hunnamed]

/-- One column has a tier of its name behind one at its place, one has a tier at its place alone, and
one has none. -/
theorem productPrices_last_wins_staff :
    let vip : PriceTier := { id := 1, name := "vip", multiplier := 4.0, orderIndex := 3 }
    let staff : PriceTier := { id := 2, name := "wholesale", multiplier := 2.0, orderIndex := 1 }
    let gold : PriceTier := { id := 3, name := "gold", multiplier := 3.0, orderIndex := 2 }
    NamedOnce [vip, staff, gold] ∧
      (productPrices 100.0 [vip, staff, gold]).get .wholesale = staff.price 100.0 ∧
      (productPrices 100.0 [vip, staff, gold]).get .discount1 = gold.price 100.0 ∧
      (productPrices 100.0 [vip, staff, gold]).get .discount2 =
        100.0 * PriceColumn.discount2.multiplier := by
  intro vip staff gold
  have hnames : NamedOnce [vip, staff, gold] := by
    intro c
    cases c <;> decide
  refine ⟨hnames, ?_, ?_, ?_⟩
  · exact (productPrices_last_wins hnames 100.0 .wholesale).1 [vip] staff [gold] rfl rfl rfl
  · exact (productPrices_last_wins hnames 100.0 .discount1).2 (by decide)
  · exact (productPrices_last_wins hnames 100.0 .discount2).2 (by decide)

/-- A tier named after a column loses it to a later tier that has the column's index only. -/
theorem productPrices_name_overwritten :
    let named : PriceTier := { id := 1, name := "wholesale", multiplier := 2.0, orderIndex := 1 }
    let placed : PriceTier := { id := 2, name := "vip", multiplier := 4.0, orderIndex := 3 }
    NamedOnce [named, placed] ∧
      (productPrices 100.0 [named, placed]).get .wholesale = placed.price 100.0 ∧
      (productPrices 100.0 [named, placed]).get .wholesale ≠ named.price 100.0 := by
  refine ⟨?_, rfl, ?_⟩
  · intro c
    cases c <;> decide
  · decide +kernel

end VolumePricing
