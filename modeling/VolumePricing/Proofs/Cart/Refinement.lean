import VolumePricing.Proofs.Cart.Numbering
import VolumePricing.Proofs.Store.Careful
import VolumePricing.Store.Seed

/-!
# Carts follow the ledger

Every call on the carts of a store in memory is answered as it would be on a
ledger of positive units, and leaves the table with the sheets that the ledger
has then. It touches one line of one cart and no more, and a call that is
refused touches nothing.
-/

namespace VolumePricing

open VolumePricing.Action Checked

namespace CartTable

variable {s s' t : CartTable} {cart opened : Cart} {user : String} {product : Product}
  {productId : UInt32} {quantity : Int64} {c : CartCall} {e : StoreError}

def ledger (s : CartTable) : Ledger := fun user => (s.get? user).map (·.sheet)

/-- The cart and the table that a call leads to, or why it is refused. -/
def call (s : CartTable) : CartCall → Checked (Except StoreError (Cart × CartTable))
  | .add user product quantity => (s.addItem user product quantity).map .ok
  | .set user productId quantity => .ok (s.setQuantity user productId quantity)
  | .remove user productId => .ok (s.removeItem user productId)

/-- A call that is answered with a cart puts it in the table. On the sheets it does what it does
on a ledger; of the lines it changes the units of the product's line, or adds or takes out the
whole line, and nothing else. -/
structure Answers (s : CartTable) (c : CartCall) (cart : Cart) (s' : CartTable) : Prop where
  sound : s'.Sound
  ledger : s.ledger.call c = (.ok cart.sheet, s'.ledger)
  stored : s'.get? c.user = some cart
  cart_kept : ∀ old, s.get? c.user = some old → cart.id = old.id
  other_lines : cart.items.filter (·.productId ≠ c.productId) =
    (s.linesOf c.user).filter (·.productId ≠ c.productId)
  own_line : ∀ old ∈ s.linesOf c.user, old.productId = c.productId →
    ∀ new ∈ cart.items, new.productId = c.productId → new = { old with quantity := new.quantity }
  other_users : ∀ other, other ≠ c.user → s'.get? other = s.get? other

/-! ### What is put in the table -/

theorem ledger_put (s : CartTable) (cart : Cart) :
    (s.put cart).ledger = Function.update s.ledger cart.userId (some cart.sheet) := by
  funext user
  unfold CartTable.ledger
  rw [get?_put, Function.update_apply]
  split <;> rfl

theorem ledger_congr (h : t.carts = s.carts) : t.ledger = s.ledger := by
  funext user
  rw [CartTable.ledger, CartTable.ledger, get?, get?, h]

theorem sheetOf_linesOf : sheetOf (s.linesOf user) = (s.ledger user).getD [] := by
  unfold linesOf CartTable.ledger
  cases s.get? user <;> rfl

/-! ### Lines of which one product's are revised -/

/-- Lines of which those of one product came, went or changed their units, with the numbers that
are new. -/
structure Revises (items lines : List CartLine) (productId : UInt32) (fresh : List UInt32) :
    Prop where
  products : (lines.map (·.productId)).Nodup
  filled : AllFilled lines
  itemIds : (lines.map (·.cartItemId)).Sublist (items.map (·.cartItemId) ++ fresh)
  other_lines : lines.filter (·.productId ≠ productId) = items.filter (·.productId ≠ productId)
  own_line : ∀ old ∈ items, old.productId = productId →
    ∀ new ∈ lines, new.productId = productId → new = { old with quantity := new.quantity }

variable {items items' : List CartLine} {lastItemId id : UInt32}

theorem revises_setIn (quantity : Int64) (hnodup : (items.map (·.productId)).Nodup)
    (hfilled : AllFilled items) (hany : items.any (·.productId == productId) = true) :
    Revises items (setIn items productId quantity) productId [] where
  products := hnodup.sublist (map_setIn_sublist (fun _ _ => rfl) _ _ _)
  filled := (setIn_eq quantity hfilled hany).1
  itemIds := by
    rw [List.append_nil]
    exact map_setIn_sublist (fun _ _ => rfl) _ _ _
  other_lines := filter_setIn _ _ _
  own_line := by
    intro old hold hop new hnew hnp
    by_cases hpos : 0 < quantity.toInt
    · rw [setIn_of_pos hpos, modifyFirst_eq_map productId _ hnodup] at hnew
      obtain ⟨l, hl, rfl⟩ := List.mem_map.mp hnew
      by_cases hlp : l.productId = productId
      · have hsame : l = old := List.inj_on_of_nodup_map hnodup hl hold (hlp.trans hop.symm)
        rw [if_pos hlp, hsame]
      · rw [if_neg hlp] at hnp
        exact absurd hnp hlp
    · rw [setIn_of_nonpos (not_lt.mp hpos), eraseP_eq_filter productId hnodup] at hnew
      have hne := (List.mem_filter.mp hnew).2
      simp [hnp] at hne

theorem revises_append (hnodup : (items.map (·.productId)).Nodup) (hfilled : AllFilled items)
    (hnone : items.any (·.productId == product.id) = false) :
    Revises items (items ++ if 0 < quantity then [newLine id product quantity] else [])
      product.id [id] := by
  have habsent : ∀ l ∈ items, l.productId ≠ product.id := by simpa using hnone
  by_cases hpos : 0 < quantity
  · rw [if_pos hpos]
    refine ⟨?_, ?_, ?_, ?_, ?_⟩
    · rw [List.map_append, List.nodup_append]
      refine ⟨hnodup, List.nodup_singleton _, ?_⟩
      simpa [newLine] using habsent
    · intro l hl
      rcases List.mem_append.mp hl with hl | hl
      · exact hfilled l hl
      · rw [List.mem_singleton.mp hl]
        rwa [Int64.lt_iff_toInt_lt, Int64.toInt_zero] at hpos
    · rw [List.map_append]
      exact List.Sublist.refl _
    · simp [List.filter_append, newLine]
    · intro old hold hop
      exact absurd hop (habsent old hold)
  · rw [if_neg hpos, List.append_nil]
    refine ⟨hnodup, hfilled, List.sublist_append_left _ _, rfl, ?_⟩
    intro old hold hop
    exact absurd hop (habsent old hold)

/-- A line that is new takes the next number, and no other number is new. -/
theorem revises_addTo (hnodup : (items.map (·.productId)).Nodup) (hfilled : AllFilled items)
    (h : addTo lastItemId items product quantity = .ok (items', id)) :
    ∃ fresh, Revises items (items'.filter (0 < ·.quantity)) product.id fresh ∧ fresh.Nodup ∧
      lastItemId.toNat ≤ id.toNat ∧
      ∀ n ∈ fresh, lastItemId.toNat < n.toNat ∧ n.toNat ≤ id.toNat := by
  rcases filled_addTo hfilled h with ⟨sum, hany, rfl, -, hlines⟩ | ⟨hnone, hid, hlines⟩
  · refine ⟨[], ?_, List.nodup_nil, le_rfl, by simp⟩
    rw [hlines]
    exact revises_setIn sum hnodup hfilled hany
  · refine ⟨[id], ?_, List.nodup_singleton _, by omega, ?_⟩
    · rw [hlines]
      exact revises_append hnodup hfilled hnone
    · intro n hn
      rw [List.mem_singleton.mp hn, hid]
      exact ⟨Nat.lt_succ_self _, le_rfl⟩

/-- A cart that rightly comes into the table answers the call, if its lines do. -/
theorem Answers.of_succeeds {fresh : List UInt32} (hs : s.Sound) (h : Succeeds s t cart fresh)
    (huser : cart.userId = c.user)
    (hlines : Revises (s.linesOf c.user) cart.items c.productId fresh)
    (hledger : s.ledger.call c = s.ledger.put c.user cart.sheet) :
    Answers s c cart (t.put cart) where
  sound := hs.put h
  ledger := by
    rw [hledger, Ledger.put, ledger_put, ledger_congr h.carts, huser]
  stored := by rw [get?_put, if_pos huser.symm]
  cart_kept := by
    intro old hold
    rw [← huser] at hold
    rcases h.id with ⟨old', hold', hid⟩ | ⟨hnone, -, -⟩
    · rw [hold] at hold'
      cases hold'
      exact hid
    · rw [hold] at hnone
      cases hnone
  other_lines := hlines.other_lines
  own_line := hlines.own_line
  other_users := by
    intro other hne
    rw [get?_put, huser, if_neg hne, get?, h.carts, get?]

/-! ### Setting and removing -/

theorem setQuantity_eq_error (h : s.setQuantity user productId quantity = .error e)
    (f : Sheet → Sheet) : s.ledger.change user productId f = (.error e, s.ledger) := by
  unfold setQuantity at h
  unfold Ledger.change CartTable.ledger
  cases hget : s.get? user with
  | none =>
    rw [hget] at h
    cases h
    rfl
  | some old =>
    rw [hget] at h
    dsimp only at h
    split at h
    · cases h
    · rename_i hany
      cases h
      simp [Cart.sheet, has_sheetOf, hany]

/-- A call that sets the units of a line. -/
theorem answers_setQuantity (hs : s.Sound)
    (hcall : s.ledger.call c =
      s.ledger.change c.user c.productId (·.set c.productId quantity.toInt))
    (h : s.setQuantity c.user c.productId quantity = .ok (cart, s')) : Answers s c cart s' := by
  obtain ⟨old, hget, hany, rfl, rfl⟩ := setQuantity_eq_put h
  have hmem := mem_of_get? hget
  have huser := userId_of_get? hget
  have hlines : s.linesOf c.user = old.items := by simp [linesOf, hget]
  have hnodup := hs.products old hmem
  have hrevises := revises_setIn quantity hnodup (hs.filled old hmem) hany
  have hsucceeds :
      Succeeds s s { old with items := setIn old.items c.productId quantity } [] :=
    { carts := rfl
      cartId_le := le_rfl
      itemId_le := le_rfl
      id := Or.inl ⟨old, huser.symm ▸ hget, rfl⟩
      products := hrevises.products
      filled := hrevises.filled
      fresh_nodup := List.nodup_nil
      fresh_lt := by simp
      itemIds := huser.symm ▸ hlines.symm ▸ hrevises.itemIds }
  refine .of_succeeds hs hsucceeds huser (hlines.symm ▸ hrevises) ?_
  have hold : s.ledger c.user = some old.sheet := by simp [CartTable.ledger, hget]
  have hhas : old.sheet.has c.productId = true := by rw [Cart.sheet, has_sheetOf, hany]
  rw [hcall, Ledger.change, hold]
  simp only [hhas, if_true]
  rw [Cart.sheet, Cart.sheet, sheetOf_setIn quantity hnodup hany]

/-! ### Adding -/

/-- A call that adds units to a line, and opens the cart for it where there is none. -/
theorem answers_addItem (hs : s.Sound) (h : s.addItem user product quantity = .ok (cart, s')) :
    Answers s (.add user product quantity) cart s' := by
  obtain ⟨opened, t, items, id, hopen, hadd, rfl, rfl⟩ := addItem_eq_put h
  obtain ⟨huser, hcarts, hlast, -⟩ := openCart_eq_ok hopen
  have hnodup := hs.products_linesOf user
  have hfilled := hs.filled_linesOf user
  have hnumbers := openCart_id hopen
  have hcartId : s.lastCartId.toNat ≤ t.lastCartId.toNat := by
    rcases hnumbers with ⟨-, rfl⟩ | ⟨-, hid, hnext⟩
    · exact le_rfl
    · rw [hnext, hid]
      exact Nat.le_succ _
  have hid : (∃ old, s.get? opened.userId = some old ∧ opened.id = old.id) ∨
      s.get? opened.userId = none ∧ s.lastCartId.toNat < opened.id.toNat ∧
        opened.id.toNat ≤ t.lastCartId.toNat := by
    rw [huser]
    rcases hnumbers with ⟨hget, -⟩ | ⟨hnone, hid, hnext⟩
    · exact Or.inl ⟨opened, hget, rfl⟩
    · refine Or.inr ⟨hnone, ?_, ?_⟩
      · rw [hid]
        exact Nat.lt_succ_self _
      · rw [hnext]
  obtain ⟨fresh, hrevises, hfresh, hitemId, hfresh_lt⟩ := revises_addTo hnodup hfilled hadd
  have hsucceeds : Succeeds s { t with lastItemId := id }
      { opened with items := items.filter (0 < ·.quantity) } fresh :=
    { carts := hcarts
      cartId_le := hcartId
      itemId_le := hitemId
      id := hid
      products := hrevises.products
      filled := hrevises.filled
      fresh_nodup := hfresh
      fresh_lt := hfresh_lt
      itemIds := huser.symm ▸ hrevises.itemIds }
  refine .of_succeeds hs hsucceeds huser hrevises ?_
  rw [Cart.sheet, sheetOf_addTo hnodup hfilled hadd, sheetOf_linesOf]
  rfl

/-! ### Calls and runs -/

theorem call_eq_ok (hs : s.Sound) (h : s.call c = .ok (.ok (cart, s'))) : Answers s c cart s' := by
  cases c with
  | add user product quantity =>
    rcases hadd : s.addItem user product quantity with o | ⟨added, s₁⟩ <;>
      simp only [call, hadd, Except.map, Except.ok.injEq, Prod.mk.injEq, reduceCtorEq] at h
    obtain ⟨rfl, rfl⟩ := h
    exact answers_addItem hs hadd
  | set user productId quantity =>
    simp only [call, Except.ok.injEq] at h
    exact answers_setQuantity hs rfl h
  | remove user productId =>
    simp only [call, Except.ok.injEq] at h
    have hset : s.setQuantity user productId 0 = .ok (cart, s') := h
    have hzero : ∀ sheet : Sheet, sheet.drop productId = sheet.set productId (0 : Int64).toInt :=
      fun sheet => (if_pos le_rfl).symm
    refine answers_setQuantity hs ?_ hset
    simp only [Ledger.call, hzero]
    rfl

theorem call_eq_error (h : s.call c = .ok (.error e)) :
    s.ledger.call c = (.error e, s.ledger) := by
  cases c with
  | add user product quantity =>
    rcases hadd : s.addItem user product quantity with o | added <;>
      simp [call, hadd, Except.map] at h
  | set user productId quantity =>
    simp only [call, Except.ok.injEq] at h
    exact setQuantity_eq_error h _
  | remove user productId =>
    simp only [call, Except.ok.injEq] at h
    exact setQuantity_eq_error h _

end CartTable

namespace CartCall

variable {calls : List CartCall} {m₀ m m' : Memory} {answer : Except StoreError Cart}
  {answers : List (Except StoreError Cart)}

/-- A call on a store in memory is one on its table of carts. -/
theorem on_memory (c : CartCall) (m : Memory) :
    c.on Memory.store m =
      match m.carts.call c with
      | .error o => .error o
      | .ok (.error e) => .ok (.error e, m)
      | .ok (.ok (cart, carts)) => .ok (.ok cart, { m with carts }) := by
  cases c with
  | add user product quantity =>
    simp only [on, Memory.store, Memory.run_change, CartTable.call]
    rcases m.carts.addItem user product quantity with o | ⟨cart, carts⟩ <;> rfl
  | set user productId quantity =>
    simp only [on, Memory.store, Memory.run_change, CartTable.call]
    rcases m.carts.setQuantity user productId quantity with e | ⟨cart, carts⟩ <;> rfl
  | remove user productId =>
    simp only [on, Memory.store, Memory.run_change, CartTable.call]
    rcases m.carts.removeItem user productId with e | ⟨cart, carts⟩ <;> rfl

/-- What a call on a store in memory is answered with, and what it leaves. -/
structure Follows (c : CartCall) (m : Memory) (answer : Except StoreError Cart) (m' : Memory) :
    Prop where
  only_carts : m' = { m with carts := m'.carts }
  granted : ∀ cart, answer = .ok cart → m.carts.Answers c cart m'.carts
  refused : ∀ e, answer = .error e → m' = m
  ledger : m.carts.ledger.call c = (answer.map Cart.sheet, m'.carts.ledger)

theorem on_memory_follows {c : CartCall} (hs : m.carts.Sound)
    (h : c.on Memory.store m = .ok (answer, m')) : c.Follows m answer m' := by
  rw [on_memory] at h
  rcases hcall : m.carts.call c with o | e | ⟨cart, carts⟩ <;> rw [hcall] at h <;> cases h
  · have hledger := CartTable.call_eq_error hcall
    exact ⟨rfl, nofun, fun _ _ => rfl, hledger⟩
  · have hanswers := CartTable.call_eq_ok hs hcall
    refine ⟨rfl, ?_, nofun, hanswers.ledger⟩
    rintro _ ⟨⟩
    exact hanswers

theorem Follows.sound {c : CartCall} (hs : m.carts.Sound) (h : c.Follows m answer m') :
    m'.carts.Sound := by
  cases answer with
  | error e =>
    rw [h.refused e rfl]
    exact hs
  | ok cart => exact (h.granted cart rfl).sound

theorem runAll_of_sound (hs : m.carts.Sound)
    (hrun : runAll Memory.store calls m = .ok (answers, m')) :
    m'.carts.Sound ∧
      m.carts.ledger.runAll calls = (answers.map (·.map Cart.sheet), m'.carts.ledger) := by
  induction calls generalizing m answers with
  | nil =>
    cases hrun
    exact ⟨hs, rfl⟩
  | cons c cs ih =>
    obtain ⟨answer, rest, m₁, hcall, hrest, rfl⟩ := mapM_cons_eq_ok.mp hrun
    have hfollows := on_memory_follows hs hcall
    obtain ⟨hsound, hledger⟩ := ih (hfollows.sound hs) hrest
    refine ⟨hsound, ?_⟩
    rw [Ledger.runAll, hfollows.ledger, hledger]
    rfl

/-- From an empty table every run of calls that does not overflow is answered as on a ledger. It
leaves a sound table with the sheets of the ledger, on which the next call follows the ledger
again, and where taking out a line is setting its units to zero. -/
theorem runAll_follows_ledger (hempty : m₀.carts = .empty)
    (hrun : runAll Memory.store calls m₀ = .ok (answers, m)) :
    m.carts.Sound ∧
      Ledger.empty.runAll calls = (answers.map (·.map Cart.sheet), m.carts.ledger) ∧
      (∀ (c : CartCall) answer m', c.on Memory.store m = .ok (answer, m') →
        c.Follows m answer m') ∧
      ∀ user productId, (remove user productId).on Memory.store m =
        (set user productId 0).on Memory.store m := by
  have hstart : m₀.carts.Sound := hempty ▸ CartTable.sound_empty
  have hledger : m₀.carts.ledger = Ledger.empty := by rw [hempty]; rfl
  obtain ⟨hsound, hsheets⟩ := runAll_of_sound hstart hrun
  rw [hledger] at hsheets
  exact ⟨hsound, hsheets, fun c answer m' => on_memory_follows hsound, fun _ _ => rfl⟩

end CartCall

def Seed.shirt : Product := product 1 "Linen shirt" 4000.0

def Seed.jacket : Product := product 2 "Denim jacket" 12000.0

/-- Ana gives back her shirts and puts in new ones later. Bea has none to give back, and Cleo has
no cart. -/
def Seed.cartCalls : List CartCall :=
  [.add "ana" shirt 2, .add "bea" jacket 1, .add "ana" jacket 3, .add "ana" shirt (-2),
    .remove "bea" 1, .set "cleo" 1 1, .set "ana" 2 5, .add "ana" shirt 4]

theorem CartCall.runAll_follows_ledger_seed :
    ∃ m₀ answers m, Memory.holding Seed.tiers Seed.products = .ok m₀ ∧
      runAll Memory.store Seed.cartCalls m₀ = .ok (answers, m) ∧
      m.carts.Sound ∧
      answers.map (·.map Cart.sheet) =
        [.ok [(1, 2)], .ok [(2, 1)], .ok [(1, 2), (2, 3)], .ok [(2, 3)],
          .error (.lineMissing 1), .error (.cartMissing "cleo"), .ok [(2, 5)],
          .ok [(2, 5), (1, 4)]] := by
  obtain ⟨m₀, hopen, hempty⟩ : ∃ m₀, Memory.holding Seed.tiers Seed.products = .ok m₀ ∧
      m₀.carts = .empty := ⟨_, rfl, rfl⟩
  have hok : ((Memory.holding Seed.tiers Seed.products).bind
      (runAll Memory.store Seed.cartCalls)).isOk = true := by decide +kernel
  rw [hopen] at hok
  rcases hrun : runAll Memory.store Seed.cartCalls m₀ with o | ⟨answers, m⟩
  · simp [Except.bind, hrun, Except.isOk, Except.toBool] at hok
  obtain ⟨hsound, hledger, -, -⟩ := runAll_follows_ledger hempty hrun
  refine ⟨m₀, answers, m, hopen, hrun, hsound, ?_⟩
  have hanswers := congrArg Prod.fst hledger
  dsimp only at hanswers
  rw [← hanswers]
  decide

end VolumePricing
