import VolumePricing.Proofs.Service.Separation
import VolumePricing.Proofs.Service.ServerErrors

/-!
# Client errors

A request that is at fault itself has done nothing, whatever storage it meets.
Every reason to refuse it is found before the first change is made, and a
failure that comes later is not blamed on it. So a run goes on as it would have
gone on without such requests.
-/

namespace VolumePricing

open VolumePricing.Action
open Http (Request Response)

namespace Http.Response

/-- The response blames the one who asked. -/
def IsClientError (response : Response) : Prop := 400 ≤ response.status ∧ response.status < 500

instance (response : Response) : Decidable response.IsClientError :=
  inferInstanceAs (Decidable (_ ∧ _))

theorem not_isClientError {response : Response}
    (h : response.status = 200 ∨ response.status = 201 ∨ response.status = 500) :
    ¬ response.IsClientError := by
  rintro ⟨habove, hbelow⟩
  omega

end Http.Response

namespace Service

variable {settings : HubSettings} {authority : Authority} {o : Outage} {r : Request}
  {moment : Moment} {shop shop' : Shop Memory} {user : String}

/-- A cart in memory is not read during an outage, and for no other reason. -/
theorem failure_of_unread {e : StoreError} {m m' : Memory}
    (h : (during settings authority o).store.cart? user m = .ok (.error e, m')) :
    e = o.failure := by
  change o.guard [.getCart] (Memory.read _) m = _ at h
  rw [Outage.run_guard] at h
  split at h
  · cases h
    rfl
  · cases h

/-- An endpoint that was refused has left no trace, unless a failure of the storage is to blame. -/
theorem status_of_refused {endpoint : Endpoint} {refusal : Refusal}
    (h : (during settings authority o).run endpoint user r moment shop =
      .ok (.error refusal, shop')) : shop' = shop ∨ refusal.status = 500 := by
  rcases run_refused during_careful h with hsame | ⟨c, e, -, -, hcart, rfl⟩
  · exact Or.inl hsame
  · rw [failure_of_unread hcart]
    exact Or.inr rfl

/-- A request that changes anything is answered in one of three ways. -/
theorem status_of_changed {response : Response}
    (h : (during settings authority o).respond r moment shop = .ok (response, shop'))
    (hchanged : shop' ≠ shop) :
    response.status = 200 ∨ response.status = 201 ∨ response.status = 500 := by
  cases hadmitted : (during settings authority o).admitted? r moment with
  | none =>
    obtain ⟨response', -, hanswer⟩ := respond_dismissed hadmitted
    rw [hanswer] at h
    cases h
    exact absurd rfl hchanged
  | some admitted =>
    obtain ⟨endpoint, user⟩ := admitted
    rw [respond_admitted hadmitted] at h
    rcases hrun : (during settings authority o).run endpoint user r moment shop with
      e | ⟨refusal | answer, shop₁⟩ <;> rw [hrun] at h <;> cases h
    · rw [finished_status]
      exact Or.inr (Or.inr ((status_of_refused hrun).resolve_left hchanged))
    · rw [finished_status]
      exact (answers_run shop answer _ hrun).imp_right Or.inl

/-- A request that is answered with a client error has changed nothing at all: no tier, product or
cart, no number that would be given next, and nothing that the hub holds or has sent. -/
theorem respond_client_error {response : Response}
    (h : (during settings authority o).respond r moment shop = .ok (response, shop'))
    (herror : response.IsClientError) : shop' = shop := by
  by_contra hchanged
  exact Response.not_isClientError (status_of_changed h hchanged) herror

/-- The requests that are to blame may be left out of a run: all others are answered as before, from
the same shop to the same shop. -/
theorem transcript_without_client_errors {requests : List (Request × Moment)}
    {entries : List (Exchange Memory)}
    (hrun : (during settings authority o).transcript requests shop = .ok (entries, shop')) :
    let others := entries.filter fun e => ¬ e.response.IsClientError
    (during settings authority o).transcript (others.map fun e => (e.request, e.moment)) shop =
      .ok (others, shop') := by
  induction requests generalizing shop entries with
  | nil =>
    cases hrun
    rfl
  | cons q requests ih =>
    obtain ⟨e, rest, shop₁, hfirst, hrest, rfl⟩ := mapM_cons_eq_ok.mp hrun
    obtain ⟨response, hrespond, rfl⟩ := exchange_eq_ok.mp hfirst
    by_cases herror : response.IsClientError
    · have hsame : shop₁ = shop := by
        by_contra hchanged
        exact Response.not_isClientError (status_of_changed hrespond hchanged) herror
      subst hsame
      simpa [herror] using ih hrest
    · simpa [herror] using transcript_cons hrespond (ih hrest)

end Service

namespace Seed

/-- The shopper takes the shirts out of the cart. -/
def takeOut : Request where
  method := "DELETE"
  target := "/cart/items/1"
  headers := [("authorization", "Bearer ana")]

theorem cartChange?_takeOut (store : Store Memory) (settings : HubSettings) (moment : Moment) :
    (Service.mk store settings .byName).cartChange? takeOut moment = some ("ana", .remove 1) := by
  cbv

end Seed

theorem Service.respond_client_error_without_cart :
    ∃ response shop', (during {} .byName Seed.unreadCarts).respond Seed.takeOut ⟨0, 0⟩
        ⟨Seed.opened, .new {}⟩ = .ok (response, shop') ∧
      response.status = 404 ∧ shop' = ⟨Seed.opened, .new {}⟩ := by
  obtain ⟨response, shop', hresponse, hstatus⟩ : ∃ response shop',
      (during {} .byName Seed.unreadCarts).respond Seed.takeOut ⟨0, 0⟩ ⟨Seed.opened, .new {}⟩ =
        .ok (response, shop') ∧ response.status = 404 :=
    ⟨_, _, (respond_cartChange (Seed.cartChange?_takeOut _ _ _) _).trans rfl, rfl⟩
  have herror : response.IsClientError := by
    rw [Http.Response.IsClientError, hstatus]
    decide
  exact ⟨response, shop', hresponse, hstatus, respond_client_error hresponse herror⟩

end VolumePricing
