import VolumePricing.Proofs.Service.Endpoints

/-!
# What a refused request leaves behind

Over a careful store a request that is refused has changed nothing, with one
exception: a change of the cart stays made when the cart cannot be read again
for the summary.
-/

namespace VolumePricing

open VolumePricing.Action
open Http (Request Response)

namespace Service

variable {σ : Type} {s : Service σ} {r : Request} {user : String} {moment : Moment}
  {endpoint : Endpoint} {c : CartChange} {shop shop' : Shop σ}

/-- A product whose prices cannot be renewed is no reason to refuse. -/
theorem unrefused_repriceProduct (tiers : List PriceTier) (p : Product) :
    Unrefused (s.repriceProduct tiers p) := by
  unfold repriceProduct
  exact unrefused_tryCatch fun _ => unrefused_pure false

section Careful

variable (hs : s.store.Careful)
include hs

theorem atomic_write : Atomic (s.write user c) :=
  write_of_calls hs robust_atomic (fun _ _ => atomic_call (hs.addItem _ _ _))
    (fun _ _ => atomic_call (hs.setQuantity _ _ _)) fun _ => atomic_call (hs.removeItem _ _)

/-- Every endpoint that changes no cart is refused before it has changed anything. -/
theorem atomic_run (h : Extract.cartChange? r endpoint = none) :
    Atomic (s.run endpoint user r moment) :=
  run_of_calls hs robust_atomic (fun c hc => by simp [h] at hc)
    (fun _ =>
      { createTier := fun _ _ => atomic_call (hs.createTier _)
        updateTier := fun _ _ _ _ => atomic_call (hs.updateTier _ _)
        deleteTier := fun _ => atomic_call (hs.deleteTier _)
        reorderTiers := fun _ => atomic_call (hs.reorderTiers _)
        renew := fun _ tiers products =>
          (unrefused_call (Unrefused.mapM (unrefused_repriceProduct tiers) products)).atomic })
    (fun _ => atomic_refresh hs user moment)

/-- A refresh is refused with the error of the cart that could not be read. -/
theorem refresh_eq_error {refusal : Refusal}
    (h : s.refresh user moment shop = .ok (.error refusal, shop')) :
    ∃ e, s.store.cart? user shop.store = .ok (.error e, shop.store) ∧ refusal = .store e ∧
      shop' = shop := by
  have hsame : shop' = shop := atomic_refresh hs user moment shop refusal shop' h
  rw [refresh, Service.shop, run_adapt, Shop.run_refresh] at h
  rcases hsum : Shop.summarize s.store s.settings user shop.store with o | ⟨answer, st⟩ <;>
    rw [hsum] at h
  · cases h
  · rcases Shop.summarize_eq_ok hsum with ⟨e, hcart, rfl⟩ | ⟨_, _, _, _, -, -, -, rfl⟩
    · cases h
      have hst := hs.cart? user shop.store (.error e) st hcart
      exact ⟨e, hst ▸ hcart, rfl, hsame⟩
    · cases h

/-- A refused request has left no trace, unless it changed the cart and then could not read it. -/
theorem run_refused {refusal : Refusal}
    (h : s.run endpoint user r moment shop = .ok (.error refusal, shop')) :
    shop' = shop ∨
      ∃ c e, Extract.cartChange? r endpoint = some (.ok c) ∧
        s.write user c shop = .ok (.ok (), shop') ∧
        s.store.cart? user shop'.store = .ok (.error e, shop'.store) ∧ refusal = .store e := by
  cases hc : Extract.cartChange? r endpoint with
  | none => exact Or.inl (atomic_run hs hc shop refusal shop' h)
  | some asked =>
    rw [run_cartChange hc] at h
    cases asked with
    | error e =>
      cases h
      exact Or.inl rfl
    | ok c =>
      rw [lift_ok, pure_bind] at h
      rcases bind_eq_ok.mp h with ⟨e, hwrite, -⟩ | ⟨_, shop₁, hwrite, h⟩
      · exact Or.inl (atomic_write hs shop e shop' hwrite)
      · rcases bind_eq_ok.mp h with ⟨e, hrefresh, he⟩ | ⟨summary, shop₂, -, h⟩
        · obtain ⟨err, hcart, rfl, rfl⟩ := refresh_eq_error hs hrefresh
          cases he
          exact Or.inr ⟨c, err, rfl, hwrite, hcart, rfl⟩
        · cases h

end Careful

/-- An endpoint that is not refused words its answer, or opens a stream. -/
theorem answers_run_of {Q : Response → Prop}
    (told : ∀ {α : Type} [ToJson α] (a : α), Q (reply a))
    (created : ∀ {α : Type} [ToJson α] (a : α), Q (reply a 201))
    (opened : endpoint = .notifications →
      Q { status := 200, headers := (Http.Body.notices user).typeHeaders, body := .notices user }) :
    Answers Q (s.run endpoint user r moment) := by
  have worded : ∀ {α : Type} [ToJson α] (a : α),
      Answers Q (pure (reply a) : ServiceAction σ Response) :=
    fun a => answers_pure (told a)
  cases endpoint with
  | health => exact worded _
  | guestLogin => exact answers_bind fun _ => worded _
  | listTiers => exact answers_bind fun _ => answers_bind fun _ => worded _
  | createTier =>
    exact answers_bind fun _ => answers_bind fun _ => answers_pure (created _)
  | calculate => exact answers_bind fun _ => answers_bind fun _ => worded _
  | reorderTiers => exact answers_bind fun _ => answers_bind fun _ => worded _
  | recalculate => exact answers_bind fun _ => worded _
  | getTier place => exact answers_bind fun _ => answers_bind fun _ => worded _
  | updateTier place =>
    exact answers_bind fun _ => answers_bind fun _ => answers_bind fun _ => worded _
  | deleteTier place => exact answers_bind fun _ => answers_bind fun _ => worded _
  | summary => exact answers_bind fun _ => worded _
  | addItem => exact answers_bind fun _ => answers_bind fun _ => worded _
  | updateItem place =>
    exact answers_bind fun _ => answers_bind fun _ => answers_bind fun _ => worded _
  | removeItem place => exact answers_bind fun _ => answers_bind fun _ => worded _
  | notifications => exact answers_pure (opened rfl)
  | guestPrice => exact answers_bind fun _ => answers_bind fun _ => worded _

/-- Every answer that is no refusal says that all went well. -/
theorem answers_run :
    Answers (fun response : Response => response.status = 200 ∨ response.status = 201)
      (s.run endpoint user r moment) :=
  answers_run_of (fun _ => Or.inl rfl) (fun _ => Or.inr rfl) fun _ => Or.inl rfl

end Service

end VolumePricing
