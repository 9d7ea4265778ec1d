import VolumePricing.Proofs.Service.Refused
import VolumePricing.Proofs.Service.Tokens

/-!
# What requests do to those who listen

A request has the hub take in one summary at most, and does nothing else to it.
Only a request for notices opens a stream, and the stream is that of the shopper
whose token the request carries.
-/

namespace VolumePricing

open VolumePricing.Action
open Http (Request Response)

/-- The answer opens no stream, or one at the endpoint for notices and for the shopper there. -/
def Http.Response.OpensAt (response : Response) (endpoint : Endpoint) (user : String) : Prop :=
  ∀ listener, response.body = .notices listener → endpoint = .notifications ∧ listener = user

/-- No other route leads to notices, and only reading does. -/
theorem Route.eq_notifications_of_endpoint? {route : Route} {method : String}
    (h : route.endpoint? method = some .notifications) :
    route = .notifications ∧ (method = "HEAD" ∨ method = "GET") := by
  have hlisted := mem_endpoints_of_endpoint? h
  cases route with
  | notifications =>
    refine ⟨rfl, ?_⟩
    by_cases hhead : method = "HEAD"
    · exact Or.inl hhead
    · rw [if_neg hhead] at hlisted
      exact Or.inr (by simpa [endpoints] using hlisted)
  | _ => simp [endpoints] at hlisted

namespace Service

variable {σ : Type} {s : Service σ} {endpoint : Endpoint} {user : String} {r : Request}
  {moment : Moment} {shop shop' : Shop σ} {response : Response}

/-- A request leaves the hub as it is, or has it take in one new summary. -/
theorem hub_of_respond (hs : s.store.Careful)
    (h : s.respond r moment shop = .ok (response, shop')) :
    shop'.hub = shop.hub ∨
      ∃ user summary, shop'.hub = shop.hub.observe s.settings user summary moment := by
  let Before : Shop σ → Prop := fun shop' => shop'.hub = shop.hub
  let After : Shop σ → Prop := fun shop' => shop'.hub = shop.hub ∨
    ∃ user summary, shop'.hub = shop.hub.observe s.settings user summary moment
  have hle : ∀ shop', Before shop' → After shop' := fun shop' => Or.inl
  have hcall : ∀ {α : Type} (action : StoreAction σ α), Keeps Before (call action) :=
    fun action => keeps_call (P := fun hub _ => hub = shop.hub) fun hub st result st' hhub _ => hhub
  have hrefresh : ∀ user, Leads Before After (s.refresh user moment) := by
    intro user shop₁ result shop₂ hbefore hrun
    rcases refresh_hub hrun with hsame | ⟨summary, -, hobserved⟩
    · exact Or.inl (hsame.trans hbefore)
    · exact Or.inr ⟨user, summary, hobserved.trans (by rw [hbefore])⟩
  have hwrite : ∀ user c, Keeps Before (s.write user c) := by
    intro user c
    apply write_of_calls hs (robust_keeps Before)
    · exact fun p q => hcall (s.store.addItem user p q)
    · exact fun p q => hcall (s.store.setQuantity user p q)
    · exact fun p => hcall (s.store.removeItem user p)
  refine leads_respond (P := Before) hle (fun endpoint user _ => ?_) rfl h
  apply run_of_calls hs (robust_leads hle)
  · intro c _
    exact (hwrite user c).bind_leads hle fun _ => (hrefresh user).bind_pure _
  · intro _
    exact {
      createTier := fun t _ => (hcall (s.store.createTier t)).leads hle
      updateTier := fun id u _ _ => (hcall (s.store.updateTier id u)).leads hle
      deleteTier := fun id => (hcall (s.store.deleteTier id)).leads hle
      reorderTiers := fun order => (hcall (s.store.reorderTiers order)).leads hle
      renew := fun _ tiers products => (hcall (products.mapM (s.repriceProduct tiers))).leads hle }
  · exact fun _ => hrefresh user

/-- Only the endpoint for notices answers with a stream. -/
theorem opensAt_run : Answers (·.OpensAt endpoint user) (s.run endpoint user r moment) := by
  apply answers_run_of
  · intro α _ a listener hbody
    cases hbody
  · intro α _ a listener hbody
    cases hbody
  · intro hendpoint listener hbody
    cases hbody
    exact ⟨hendpoint, rfl⟩

/-- The request asks for the notices of the shopper, and its token is that of the shopper. -/
structure AsksForNotices (s : Service σ) (user : String) (r : Request) (moment : Moment) :
    Prop where
  path : Route.ofPath? r.path = some .notifications
  method : r.method = "GET"
  token : s.SpeaksFor user r moment

/-- A stream is opened for whoever asks for notices with a token, and for nobody else. -/
theorem asksForNotices_of_respond (h : s.respond r moment shop = .ok (response, shop'))
    (hbody : response.body = .notices user) : s.AsksForNotices user r moment := by
  cases hadmitted : s.admitted? r moment with
  | none =>
    obtain ⟨response', hdismisses, hanswer⟩ := respond_dismisses hadmitted
    rw [hanswer] at h
    cases h
    exact absurd hbody (hdismisses.silent user)
  | some admitted =>
    obtain ⟨endpoint, name⟩ := admitted
    rw [respond_admitted hadmitted] at h
    rcases hrun : s.run endpoint name r moment shop with e | ⟨refusal | answer, shop₁⟩ <;>
      rw [hrun] at h <;> cases h
    · obtain ⟨-, hsettled⟩ := body_of_sealed hbody
      exact absurd hsettled (Refusal.body_response_ne refusal user)
    · obtain ⟨hhead, hsettled⟩ := body_of_sealed hbody
      obtain ⟨rfl, rfl⟩ := opensAt_run shop answer _ hrun user hsettled
      obtain ⟨route, hroute, hendpoint⟩ := route_of_admitted hadmitted
      obtain ⟨rfl, hmethod⟩ := Route.eq_notifications_of_endpoint? hendpoint
      exact ⟨hroute, hmethod.resolve_left hhead, speaksFor_of_admitted hadmitted rfl⟩

end Service

end VolumePricing
