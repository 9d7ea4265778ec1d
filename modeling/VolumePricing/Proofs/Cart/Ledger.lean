import VolumePricing.Proofs.Cart.Units
import VolumePricing.Proofs.Runs
import VolumePricing.Store.Basic

/-!
# A ledger of carts

What shoppers have in their carts can be kept as a ledger: for each shopper who
has a cart a sheet of products with their units, in the order in which they
were put in. Three calls are made on it. The lines of a cart follow its sheet,
one line for a product.
-/

namespace VolumePricing

open Checked

/-! ### Sheets -/

/-- Products with their units, the first one put in first. -/
abbrev Sheet := List (UInt32 × ℤ)

namespace Sheet

def has (sheet : Sheet) (productId : UInt32) : Bool := sheet.any (·.1 == productId)

/-- The units of a product, zero where it is not on the sheet. -/
def units (sheet : Sheet) (productId : UInt32) : ℤ :=
  ((sheet.find? (·.1 == productId)).map (·.2)).getD 0

def drop (sheet : Sheet) (productId : UInt32) : Sheet := sheet.filter (·.1 ≠ productId)

/-- The sheet with the units of one product as they are to be. Where there are none left the
product is dropped, and one that is new comes last. -/
def set (sheet : Sheet) (productId : UInt32) (units : ℤ) : Sheet :=
  if units ≤ 0 then sheet.drop productId
  else if sheet.has productId then
    sheet.map fun row => if row.1 = productId then (productId, units) else row
  else sheet ++ [(productId, units)]

end Sheet

/-- The sheet of some lines. -/
def sheetOf (items : List CartLine) : Sheet := items.map fun l => (l.productId, l.quantity.toInt)

def Cart.sheet (cart : Cart) : Sheet := sheetOf cart.items

/-! ### Calls -/

inductive CartCall
  | add (user : String) (product : Product) (quantity : Int64)
  | set (user : String) (productId : UInt32) (quantity : Int64)
  | remove (user : String) (productId : UInt32)
  deriving DecidableEq, Repr

namespace CartCall

def user : CartCall → String
  | .add user _ _ => user
  | .set user _ _ => user
  | .remove user _ => user

def productId : CartCall → UInt32
  | .add _ product _ => product.id
  | .set _ productId _ => productId
  | .remove _ productId => productId

variable {σ : Type}

/-- Makes the call on a store. -/
def on (store : Store σ) : CartCall → StoreAction σ Cart
  | .add user product quantity => store.addItem user product quantity
  | .set user productId quantity => store.setQuantity user productId quantity
  | .remove user productId => store.removeItem user productId

/-- Makes all the calls, and tells what each of them was answered with. -/
def runAll (store : Store σ) (calls : List CartCall) :
    StateT σ (Except Overflow) (List (Except StoreError Cart)) :=
  calls.mapM fun c => (c.on store).run

end CartCall

/-- The sheets of the shoppers who have a cart. -/
abbrev Ledger := String → Option Sheet

namespace Ledger

def empty : Ledger := fun _ => none

def put (ledger : Ledger) (user : String) (sheet : Sheet) : Except StoreError Sheet × Ledger :=
  (.ok sheet, Function.update ledger user (some sheet))

/-- Changes a sheet that has the product. -/
def change (ledger : Ledger) (user : String) (productId : UInt32) (f : Sheet → Sheet) :
    Except StoreError Sheet × Ledger :=
  match ledger user with
  | none => (.error (.cartMissing user), ledger)
  | some sheet =>
    if sheet.has productId then ledger.put user (f sheet)
    else (.error (.lineMissing productId), ledger)

/-- What a call is answered with, and the ledger that it leaves. -/
def call (ledger : Ledger) : CartCall → Except StoreError Sheet × Ledger
  | .add user product quantity =>
    let sheet := (ledger user).getD []
    ledger.put user (sheet.set product.id (sheet.units product.id + quantity.toInt))
  | .set user productId quantity => ledger.change user productId (·.set productId quantity.toInt)
  | .remove user productId => ledger.change user productId (·.drop productId)

def runAll (ledger : Ledger) : List CartCall → List (Except StoreError Sheet) × Ledger
  | [] => ([], ledger)
  | c :: cs =>
    let rest := runAll (ledger.call c).2 cs
    ((ledger.call c).1 :: rest.1, rest.2)

end Ledger

/-! ### Lines -/

variable {items items' : List CartLine} {product : Product} {productId lastItemId id : UInt32}
  {quantity : Int64}

theorem has_sheetOf : (sheetOf items).has productId = items.any (·.productId == productId) := by
  simp [Sheet.has, sheetOf, List.any_map, Function.comp_def]

theorem units_sheetOf : (sheetOf items).units productId = unitsOfProduct items productId := by
  simp [Sheet.units, sheetOf, unitsOfProduct, List.find?_map, Function.comp_def]

theorem drop_sheetOf :
    (sheetOf items).drop productId = sheetOf (items.filter (·.productId ≠ productId)) := by
  simp [Sheet.drop, sheetOf, List.filter_map, Function.comp_def]

namespace CartTable

theorem setIn_of_nonpos (h : quantity.toInt ≤ 0) :
    setIn items productId quantity = items.eraseP (·.productId == productId) := by
  refine if_pos ?_
  rwa [Int64.le_iff_toInt_le, Int64.toInt_zero]

theorem setIn_of_pos (h : 0 < quantity.toInt) :
    setIn items productId quantity =
      modifyFirst (·.productId == productId) (fun l => { l with quantity }) items :=
  if_neg (Int64.not_nonpos_iff.mpr h)

/-- Setting the units of a line sets them on the sheet. -/
theorem sheetOf_setIn (quantity : Int64) (hnodup : (items.map (·.productId)).Nodup)
    (hany : items.any (·.productId == productId) = true) :
    sheetOf (setIn items productId quantity) = (sheetOf items).set productId quantity.toInt := by
  unfold Sheet.set
  rw [has_sheetOf, if_pos hany, drop_sheetOf]
  split
  · rename_i hzero
    rw [setIn_of_nonpos hzero, eraseP_eq_filter productId hnodup]
  · rename_i hpos
    rw [setIn_of_pos (not_le.mp hpos), modifyFirst_eq_map productId _ hnodup]
    simp only [sheetOf, List.map_map, Function.comp_def]
    apply List.map_congr_left
    intro l _
    by_cases hl : l.productId = productId <;> simp [hl]

/-- Setting the units of one product leaves the lines of all others. -/
theorem filter_setIn (items : List CartLine) (productId : UInt32) (quantity : Int64) :
    (setIn items productId quantity).filter (·.productId ≠ productId) =
      items.filter (·.productId ≠ productId) := by
  unfold setIn
  split
  · induction items with
    | nil => rfl
    | cons l ls ih =>
      by_cases hl : l.productId = productId
      · simp [hl]
      · simpa [hl] using ih
  · induction items with
    | nil => rfl
    | cons l ls ih =>
      by_cases hl : l.productId = productId
      · simp [modifyFirst, hl]
      · simpa [modifyFirst, hl] using ih

/-- Numbers and products of lines are not given anew when units are set. -/
theorem map_setIn_sublist {β : Type} {g : CartLine → β}
    (hg : ∀ (l : CartLine) (q : Int64), g { l with quantity := q } = g l) (items : List CartLine)
    (productId : UInt32) (quantity : Int64) :
    ((setIn items productId quantity).map g).Sublist (items.map g) := by
  unfold setIn
  split
  · exact List.eraseP_sublist.map g
  · rw [map_modifyFirst fun l => hg l quantity]

/-- A line whose units have become none or less is the only one to go. -/
theorem filter_modifyFirst_eq_setIn (hfilled : AllFilled items) :
    (modifyFirst (·.productId == productId) (fun l => { l with quantity }) items).filter
      (0 < ·.quantity) = setIn items productId quantity := by
  by_cases hpos : 0 < quantity.toInt
  · rw [setIn_of_pos hpos]
    apply AllFilled.filter_eq
    intro l hl
    rcases mem_modifyFirst hl with hl | ⟨_, -, -, rfl⟩
    · exact hfilled l hl
    · exact hpos
  · rw [setIn_of_nonpos (not_lt.mp hpos)]
    have hempty : ¬ 0 < quantity := by rwa [Int64.lt_iff_toInt_lt, Int64.toInt_zero]
    induction items with
    | nil => rfl
    | cons l ls ih =>
      have hls : AllFilled ls := fun l' hl' => hfilled l' (List.mem_cons_of_mem _ hl')
      have hl : 0 < l.quantity := by
        rw [Int64.lt_iff_toInt_lt, Int64.toInt_zero]
        exact hfilled l List.mem_cons_self
      by_cases hlp : l.productId = productId
      · simpa [modifyFirst, hlp, hempty] using hls.filter_eq
      · simpa [modifyFirst, hlp, hl] using ih hls

/-- The filled lines of a cart to which units were added: those of a product that is there are set
to the sum, and one that is new comes last if it holds anything. -/
theorem filled_addTo (hfilled : AllFilled items)
    (h : addTo lastItemId items product quantity = .ok (items', id)) :
    (∃ sum : Int64, items.any (·.productId == product.id) = true ∧ id = lastItemId ∧
      sum.toInt = unitsOfProduct items product.id + quantity.toInt ∧
      items'.filter (0 < ·.quantity) = setIn items product.id sum) ∨
    (items.any (·.productId == product.id) = false ∧ id.toNat = lastItemId.toNat + 1 ∧
      items'.filter (0 < ·.quantity) =
        items ++ if 0 < quantity then [newLine id product quantity] else []) := by
  rcases addTo_cases h with ⟨line, sum, hfind, hsum, rfl, rfl⟩ | ⟨hfind, hid, rfl⟩
  · refine Or.inl ⟨sum, ?_, rfl, ?_, filter_modifyFirst_eq_setIn hfilled⟩
    · have hline := List.find?_some hfind
      exact List.any_eq_true.mpr ⟨line, List.mem_of_find?_eq_some hfind, hline⟩
    · rw [addInt64_eq_ok.mp hsum, unitsOfProduct, hfind]
      rfl
  · refine Or.inr ⟨?_, addUInt32_eq_ok.mp hid, ?_⟩
    · simpa [List.find?_eq_none] using hfind
    · rw [List.filter_append, hfilled.filter_eq]
      by_cases hpos : 0 < quantity <;> simp [newLine, hpos]

/-- Adding units to a cart adds them on its sheet. -/
theorem sheetOf_addTo (hnodup : (items.map (·.productId)).Nodup) (hfilled : AllFilled items)
    (h : addTo lastItemId items product quantity = .ok (items', id)) :
    sheetOf (items'.filter (0 < ·.quantity)) =
      (sheetOf items).set product.id ((sheetOf items).units product.id + quantity.toInt) := by
  rcases filled_addTo hfilled h with ⟨sum, hany, -, hsum, hlines⟩ | ⟨hnone, -, hlines⟩
  · rw [hlines, sheetOf_setIn sum hnodup hany, units_sheetOf, hsum]
  · have habsent : ∀ l ∈ items, l.productId ≠ product.id := by simpa using hnone
    have hzero : unitsOfProduct items product.id = 0 := by
      have hfind : items.find? (·.productId == product.id) = none := by
        simpa [List.find?_eq_none] using habsent
      rw [unitsOfProduct, hfind]
      rfl
    have hall : items.filter (·.productId ≠ product.id) = items :=
      List.filter_eq_self.mpr fun l hl => by simpa using habsent l hl
    rw [hlines, units_sheetOf, hzero, zero_add, Sheet.set, has_sheetOf, hnone, drop_sheetOf, hall]
    by_cases hpos : 0 < quantity
    · have hunits : 0 < quantity.toInt := by rwa [Int64.lt_iff_toInt_lt, Int64.toInt_zero] at hpos
      simp [hpos, not_le.mpr hunits, sheetOf, newLine]
    · have hunits : quantity.toInt ≤ 0 := by
        rwa [Int64.lt_iff_toInt_lt, Int64.toInt_zero, not_lt] at hpos
      simp [hpos, hunits]

end CartTable

end VolumePricing
