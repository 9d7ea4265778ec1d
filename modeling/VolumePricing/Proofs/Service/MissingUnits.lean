import VolumePricing.Proofs.Pricing.Reach
import VolumePricing.Proofs.Service.TierOutage

/-!
# The units that are missing

Wherever a cart is priced it is told how many units it lacks for the next tier. A threshold may be
any word, so an order of fewer than no units could be farther away from it than a word counts. No
such order is ever priced: the lines of a stored cart hold something in every state that requests
lead to, and a cart kept elsewhere is refused unless each of its items does.
-/

namespace VolumePricing

open VolumePricing.Action Checked
open Http (Request Response)

/-! ### Sums and differences -/

namespace Checked

variable {α β : Type} {o : Overflow}

/-- Steps of which each overflows by a sum do so together. -/
theorem eq_addition_of_bind {x : Checked α} {f : α → Checked β} (h : x >>= f = .error o)
    (hx : x = .error o → o = .addition) (hf : ∀ a, f a = .error o → o = .addition) :
    o = .addition := by
  cases x with
  | error e =>
    cases h
    exact hx rfl
  | ok a => exact hf a h

/-- A sum that overflows is said to be one. -/
theorem eq_addition_of_addInt64 {a b : Int64} (h : addInt64 a b = .error o) : o = .addition := by
  unfold addInt64 at h
  split at h <;> cases h
  rfl

theorem eq_addition_of_addUInt32 {a b : UInt32} (h : addUInt32 a b = .error o) :
    o = .addition := by
  unfold addUInt32 at h
  split at h <;> cases h
  rfl

theorem eq_addition_of_foldlM {xs : List Int64} {a : Int64}
    (h : xs.foldlM addInt64 a = .error o) : o = .addition := by
  induction xs generalizing a with
  | nil => cases h
  | cons x xs ih =>
    rw [List.foldlM_cons] at h
    exact eq_addition_of_bind h eq_addition_of_addInt64 fun _ => ih

end Checked

section Pricing

variable {tiers : List PriceTier} {t : PriceTier} {units : Int64} {lines : List CartLine}
  {fallback : Float} {o : Overflow}

/-- The units that an order lacks for a tier. -/
def PriceTier.missing (t : PriceTier) (units : Int64) : ℤ := t.minQuantity.toInt - units.toInt

/-- An order that is not negative lacks at least one unit for the next tier, and no more than a word
counts. So many are told. -/
theorem missing_of_closestAbove (hunits : 0 ≤ units.toInt) (h : closestAbove tiers units = some t) :
    1 ≤ t.missing units ∧ t.missing units ≤ Int64.maxValue.toInt ∧
      ∃ next, nextTier tiers units = .ok (some next) ∧
        next.quantityToUnlock.toInt = t.missing units := by
  have hlt := Int64.lt_iff_toInt_lt.mp (closestAbove_eq_some h).2.2
  have hmax := t.minQuantity.toInt_lt
  unfold PriceTier.missing
  refine ⟨by omega, by rw [Int64.toInt_maxValue]; omega, ?_⟩
  cases hnext : nextTier tiers units with
  | error o => exact absurd ⟨o, hnext⟩ (not_overflows_nextTier hunits)
  | ok found =>
    cases found with
    | none =>
      rw [closestAbove_of_nextTier_eq_none hnext] at h
      cases h
    | some next =>
      obtain ⟨u, hu, -, -, hmissing⟩ := nextTier_eq_some_iff.mp hnext
      rw [h] at hu
      cases hu
      exact ⟨next, rfl, hmissing⟩

/-- Lines that hold something have a sum that is not negative, or none. -/
theorem AllFilled.sum_nonneg (h : AllFilled lines)
    (hsum : sumInt64 (lines.map (·.quantity)) = .ok units) : 0 ≤ units.toInt := by
  rw [toInt_of_sumInt64 hsum]
  exact h.unitsOf_nonneg

/-- Where lines hold something, only their sum may overflow. -/
theorem eq_addition_of_priceLines (hfilled : AllFilled lines)
    (h : priceLines fallback lines tiers = .error o) : o = .addition := by
  cases hsum : sumInt64 (lines.map (·.quantity)) with
  | error e =>
    rw [priceLines, hsum] at h
    cases h
    exact eq_addition_of_foldlM hsum
  | ok units =>
    have hover := (overflows_priceLines_of_sum hsum).mp ⟨o, h⟩
    exact absurd hover (not_overflows_nextTier (hfilled.sum_nonneg hsum))

theorem eq_addition_of_summarizeCart {cart : Option Cart}
    (hfilled : ∀ c, cart = some c → AllFilled c.items)
    (h : summarizeCart fallback cart tiers = .error o) : o = .addition := by
  cases cart with
  | none => cases h
  | some c =>
    cases hprice : priceLines fallback c.items tiers with
    | error e =>
      simp only [summarizeCart, hprice, Except.map] at h
      cases h
      exact eq_addition_of_priceLines (hfilled c rfl) hprice
    | ok s =>
      simp only [summarizeCart, hprice, Except.map] at h
      cases h

end Pricing

namespace CartTable

variable {s : CartTable} {user : String} {product : Product} {quantity : Int64} {o : Overflow}

theorem eq_addition_of_openCart (h : s.openCart user = .error o) : o = .addition := by
  unfold openCart at h
  split at h
  · cases h
  · exact eq_addition_of_bind h eq_addition_of_addUInt32 fun id h => by cases h

theorem eq_addition_of_addTo {lastItemId : UInt32} {items : List CartLine}
    (h : addTo lastItemId items product quantity = .error o) : o = .addition := by
  unfold addTo at h
  split at h
  · exact eq_addition_of_bind h eq_addition_of_addInt64 fun sum h => by cases h
  · exact eq_addition_of_bind h eq_addition_of_addUInt32 fun id h => by cases h

theorem eq_addition_of_addItem (h : s.addItem user product quantity = .error o) :
    o = .addition := by
  refine eq_addition_of_bind h eq_addition_of_openCart fun opened h => ?_
  exact eq_addition_of_bind h eq_addition_of_addTo fun lines h => by cases h

end CartTable

/-- A change overflows where the computation on the tables does. -/
theorem Memory.eq_error_of_change {α : Type} {f : Memory → Checked (Except StoreError (α × Memory))}
    {m : Memory} {o : Overflow} (h : change f m = .error o) : f m = .error o := by
  rw [run_change] at h
  rcases hf : f m with e | e | ⟨a, m'⟩ <;> rw [hf] at h <;> cases h
  rfl

/-! ### Requests -/

namespace Action

variable {ε ε' σ α β : Type} {P : σ → Prop}

/-- In a state with the property the action overflows by a sum, or not at all. -/
def OnlyAdds (P : σ → Prop) (x : Action ε σ α) : Prop :=
  ∀ s o, P s → x s = .error o → o = .addition

theorem onlyAdds_of_ok {x : Action ε σ α} (h : ∀ s, ∃ p, x s = .ok p) : OnlyAdds P x := by
  intro s o _ ho
  obtain ⟨p, hp⟩ := h s
  rw [hp] at ho
  cases ho

theorem OnlyAdds.bind {x : Action ε σ α} {f : α → Action ε σ β} (hx : OnlyAdds P x)
    (hkeeps : Keeps P x) (hf : ∀ a, OnlyAdds P (f a)) : OnlyAdds P (x >>= f) := by
  intro s o hs ho
  rw [run_bind] at ho
  rcases hrun : x s with e | ⟨e | a, s'⟩ <;> rw [hrun] at ho
  · cases ho
    exact hx s o hs hrun
  · cases ho
  · exact hf a s' o (hkeeps s _ s' hs hrun) ho

/-- Wording the answer overflows nowhere. -/
theorem OnlyAdds.worded {x : Action ε σ α} (hx : OnlyAdds P x) (f : α → β) :
    OnlyAdds P (do return f (← x)) := by
  intro s o hs ho
  rw [run_bind] at ho
  rcases hrun : x s with e | ⟨e | a, s'⟩ <;> rw [hrun] at ho <;> cases ho
  exact hx s o hs hrun

end Action

namespace Service

variable {settings : HubSettings} {authority : Authority} {o : Outage} {r : Request}
  {moment : Moment} {endpoint : Endpoint} {user : String} {shop : Shop Memory} {c : CartChange}

/-- Every line of every stored cart holds something. -/
def CartsFilled (shop : Shop Memory) : Prop := shop.store.Filled

theorem onlyAdds_guard {α : Type} {calls : List StoreCall} {x : StoreAction Memory α}
    (h : ∀ m e, x m = .error e → e = .addition) :
    OnlyAdds CartsFilled (call (o.guard calls x)) := by
  intro shop e _ he
  rw [run_call, Outage.run_guard] at he
  split at he
  · cases he
  · cases hx : x shop.store with
    | error e' =>
      rw [hx] at he
      cases he
      exact h _ _ hx
    | ok p =>
      rw [hx] at he
      cases he

theorem onlyAdds_product (id : UInt32) :
    OnlyAdds CartsFilled ((during settings authority o).product id) := by
  refine OnlyAdds.bind (onlyAdds_guard fun m e h => by cases h) ?_ fun found => ?_
  · exact (reads_call (during_careful.product? id)).keeps
  · apply onlyAdds_of_ok
    intro shop
    cases found <;> exact ⟨_, rfl⟩

theorem onlyAdds_write (c : CartChange) :
    OnlyAdds CartsFilled ((during settings authority o).write user c) := by
  have set : ∀ calls productId quantity, OnlyAdds CartsFilled
      (call (o.guard calls (Memory.store.setQuantity user productId quantity))) := by
    intro calls productId quantity
    refine onlyAdds_guard fun m e h => ?_
    have hset := Memory.eq_error_of_change h
    simp only at hset
    cases hset
  cases c with
  | add item =>
    by_cases hq : item.quantity ≤ 0
    · apply onlyAdds_of_ok
      intro shop
      exact ⟨_, by simp only [write, if_pos hq]; rfl⟩
    · have made : OnlyAdds CartsFilled (do
          let product ← (during settings authority o).product item.productId
          let _ ← call
            ((during settings authority o).store.addItem user product item.quantity)) := by
        refine (onlyAdds_product item.productId).bind
          (reads_product during_careful item.productId).keeps fun p => ?_
        refine OnlyAdds.worded (onlyAdds_guard fun m e h => ?_) _
        have hchange := Memory.eq_error_of_change h
        rcases hadd : m.carts.addItem user p item.quantity with e' | q <;> rw [hadd] at hchange <;>
          cases hchange
        exact CartTable.eq_addition_of_addItem hadd
      simp only [write, if_neg hq]
      exact made
  | set productId quantity => exact (set _ productId quantity).worded _
  | remove productId =>
    -- taking a line out is setting its quantity to zero
    exact (set _ productId 0).worded _

theorem onlyAdds_refresh :
    OnlyAdds CartsFilled ((during settings authority o).refresh user moment) := by
  intro shop e hfilled he
  rw [run_refresh_during] at he
  split at he
  · cases he
  · cases hsum : summarizeCart settings.fallback (shop.store.carts.get? user)
        (listed o shop.store) with
    | error e' =>
      rw [hsum] at he
      cases he
      refine eq_addition_of_summarizeCart (fun cart hcart => ?_) hsum
      have hlines := hfilled user
      rwa [CartTable.linesOf, hcart] at hlines
    | ok summary =>
      rw [hsum] at he
      cases he

theorem onlyAdds_guestLines (place : Nat) (items : List ItemRequest) :
    OnlyAdds CartsFilled ((during settings authority o).guestLines place items) := by
  induction items generalizing place with
  | nil => exact onlyAdds_of_ok fun shop => ⟨_, rfl⟩
  | cons item items ih =>
    unfold guestLines
    by_cases hq : item.quantity ≤ 0
    · apply onlyAdds_of_ok
      intro shop
      exact ⟨_, by simp only [if_pos hq]; rfl⟩
    · simp only [if_neg hq]
      exact (onlyAdds_product item.productId).bind
        (reads_product during_careful item.productId).keeps fun p => (ih (place + 1)).worded _

theorem onlyAdds_guestPrice (cart : GuestCart) :
    OnlyAdds CartsFilled ((during settings authority o).guestPrice cart) := by
  intro shop e hshop he
  unfold guestPrice at he
  rw [run_bind] at he
  rcases hlines : (during settings authority o).guestLines 0 cart.items shop with
    e' | ⟨e' | lines, shop'⟩ <;> rw [hlines] at he
  · cases he
    exact onlyAdds_guestLines 0 cart.items shop e hshop hlines
  · cases he
  · obtain ⟨rfl, hfilled, -⟩ := guestLines_eq_ok hlines
    change call (Shop.price (Memory.store.during o) settings lines) shop' = _ at he
    rw [run_price_during] at he
    cases hprice : priceLines settings.fallback lines (listed o shop'.store) with
    | error e' =>
      rw [hprice] at he
      cases he
      exact eq_addition_of_priceLines hfilled hprice
    | ok summary =>
      rw [hprice] at he
      cases he

/-- An endpoint that prices a cart overflows by a sum, or not at all. -/
theorem onlyAdds_run (hprices : endpoint.isOfCart = true ∨ endpoint = .guestPrice) :
    OnlyAdds CartsFilled ((during settings authority o).run endpoint user r moment) := by
  have refused_or : ∀ {α : Type} {x : Extracted α} {f : α → ServiceAction Memory Response},
      (∀ a, OnlyAdds CartsFilled (f a)) →
      OnlyAdds CartsFilled ((liftM x : ServiceAction Memory α) >>= f) :=
    fun hf => (onlyAdds_of_ok fun shop => ⟨_, rfl⟩).bind (reads_except _).keeps hf
  have changed : ∀ {asked : Extracted CartChange}, Extract.cartChange? r endpoint = some asked →
      OnlyAdds CartsFilled ((during settings authority o).run endpoint user r moment) := by
    intro asked hasked
    rw [run_cartChange hasked]
    exact refused_or fun c =>
      (onlyAdds_write c).bind (filled_write c) fun _ => onlyAdds_refresh.worded _
  cases endpoint with
  | summary => exact onlyAdds_refresh.worded _
  | addItem => exact changed rfl
  | updateItem place => exact changed rfl
  | removeItem place => exact changed rfl
  | guestPrice => exact refused_or fun cart => (onlyAdds_guestPrice cart).worded _
  | _ => rcases hprices with h | h <;> cases h

/-- The lines of some cart that a request may have priced: one that is stored, or one that is kept
elsewhere and not refused. -/
inductive MayPrice (settings : HubSettings) (authority : Authority) (shop : Shop Memory) :
    List CartLine → Prop
  | stored (user : String) : MayPrice settings authority shop (shop.store.carts.linesOf user)
  | elsewhere {o : Outage} {items : List ItemRequest} {lines : List CartLine} {shop' : Shop Memory}
      (h : (during settings authority o).guestLines 0 items shop = .ok (.ok lines, shop')) :
      MayPrice settings authority shop lines

theorem MayPrice.filled {lines : List CartLine} (h : MayPrice settings authority shop lines)
    (hshop : shop.store.Filled) : AllFilled lines := by
  cases h with
  | stored user => exact hshop user
  | elsewhere h => exact (guestLines_eq_ok h).2.1

/-- In every state that requests lead to, whatever tiers are stored, a cart that is priced lacks at
least one unit for its next tier and no more than a word counts, and no request that prices a cart
ever overflows by a difference. -/
theorem arrived_missing_units (harrived : Arrived settings authority shop) :
    (∀ lines, MayPrice settings authority shop lines → ∀ total,
      sumInt64 (lines.map (·.quantity)) = .ok total → ∀ tiers t,
      closestAbove tiers total = some t →
        1 ≤ t.missing total ∧ t.missing total ≤ Int64.maxValue.toInt ∧
          ∃ next, nextTier tiers total = .ok (some next) ∧
            next.quantityToUnlock.toInt = t.missing total) ∧
      ∀ o r moment endpoint user,
        (during settings authority o).admitted? r moment = some (endpoint, user) →
        endpoint.isOfCart = true ∨ endpoint = .guestPrice →
        (during settings authority o).respond r moment shop ≠ .error .subtraction := by
  constructor
  · intro lines hlines total hsum tiers t ht
    exact missing_of_closestAbove ((hlines.filled harrived.filled).sum_nonneg hsum) ht
  · intro o r moment endpoint user hadmitted hprices hover
    rw [respond_admitted hadmitted] at hover
    cases hrun : (during settings authority o).run endpoint user r moment shop with
    | error e =>
      rw [hrun] at hover
      cases hover
      cases onlyAdds_run hprices shop _ harrived.filled hrun
    | ok p =>
      rw [hrun] at hover
      obtain ⟨result, shop'⟩ := p
      cases result <;> cases hover

end Service

/-- A tier that no order reaches but the largest. -/
def Seed.unreached : PriceTier := { minQuantity := Int64.maxValue }

/-- After an order of two shirts such a tier is as far away as the word allows. -/
theorem Service.arrived_missing_units_order : ∃ shop : Shop Memory,
    (shop.store.carts.linesOf "ana").map (·.quantity) = [2] ∧
      (∃ next, nextTier [Seed.unreached] 2 = .ok (some next) ∧
        next.quantityToUnlock.toInt = Int64.maxValue.toInt - 2) ∧
      (during {} .byName .none).respond (Seed.order "2") ⟨1, 0⟩ shop ≠ .error .subtraction := by
  obtain ⟨p, hp, hquantities⟩ : ∃ p, (during {} .byName .none).respond (Seed.order "2") ⟨0, 0⟩
      ⟨Seed.opened, .new {}⟩ = .ok p ∧
      (p.2.store.carts.linesOf "ana").map (·.quantity) = [2] :=
    ⟨_, (respond_cartChange (Seed.cartChange?_order Seed.body_order_two) _).trans rfl, rfl⟩
  have harrived : Arrived {} .byName p.2 := .answered (.opened Seed.holding_opened) hp
  obtain ⟨hmissing, hnever⟩ := arrived_missing_units harrived
  obtain ⟨-, -, hnext⟩ := hmissing _ (.stored "ana") 2 (by rw [hquantities]; rfl)
    [Seed.unreached] Seed.unreached rfl
  have hadmitted : (during {} .byName .none).admitted? (Seed.order "2") ⟨1, 0⟩ =
      some (.addItem, "ana") := Seed.admitted?_order _ _ _ _
  exact ⟨p.2, hquantities, hnext, hnever _ _ _ _ _ hadmitted (Or.inl rfl)⟩

end VolumePricing
