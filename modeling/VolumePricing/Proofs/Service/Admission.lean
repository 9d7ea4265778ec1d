import VolumePricing.Proofs.FirstMatch
import VolumePricing.Proofs.Service.Calls

/-!
# Which requests get through

A request is admitted when it comes to an endpoint and the one who asks may use
it. One that is not admitted is answered on the spot, and no store call is
made. One that is admitted is answered by its endpoint alone.
-/

namespace VolumePricing

open VolumePricing.Action
open Http (Request Response)

/-- What a method leads to is one of the endpoints of the route. -/
theorem Route.mem_endpoints_of_endpoint? {route : Route} {method : String} {endpoint : Endpoint}
    (h : route.endpoint? method = some endpoint) :
    ((if method = "HEAD" then "GET" else method), endpoint) ∈ route.endpoints :=
  mem_of_lookup_eq_some h

theorem Refusal.status_ne_200 (refusal : Refusal) : refusal.status ≠ 200 := by
  intro h
  cases refusal with
  | store e => cases e <;> cases h
  | body fault => cases fault <;> cases h
  | _ => cases h

/-- Nobody listens to a refusal. -/
theorem Refusal.body_response_ne (refusal : Refusal) (user : String) :
    refusal.response.body ≠ .notices user := by
  intro h
  cases refusal with
  | body fault => cases fault <;> cases h
  | _ => cases h

namespace Service

variable {σ : Type} (s : Service σ)

/-- A response as it is sent. -/
def sealed (r : Request) (response : Response) : Response :=
  let response := response.withHeaders sharingHeaders
  if r.method = "HEAD" then response.withoutBody else response

/-- What an endpoint came to, as a response. -/
def settled : Except Refusal Response → Response
  | .ok response => response
  | .error refusal => refusal.response

/-- The response that is sent for what an endpoint came to. -/
def finished (r : Request) (result : Except Refusal Response) : Response :=
  sealed r ((settled result).withHeaders (settled result).body.lengthHeader)

@[simp] theorem sealed_status (r : Request) (response : Response) :
    (sealed r response).status = response.status := by
  unfold sealed
  dsimp only
  split <;> rfl

/-- Notices are sent to those who ask for a body, and as they are. -/
theorem body_of_sealed {r : Request} {response : Response} {user : String}
    (h : (sealed r response).body = .notices user) :
    r.method ≠ "HEAD" ∧ response.body = .notices user := by
  unfold sealed at h
  dsimp only at h
  split at h
  · cases h
  · exact ⟨‹_›, h⟩

@[simp] theorem finished_status (r : Request) (result : Except Refusal Response) :
    (finished r result).status = (settled result).status := by
  simp [finished, Http.Response.withHeaders]

/-- What a request comes to without an endpoint, and its status. -/
inductive Dismissed : Nat → Prop
  | preflight : Dismissed 200
  | token : Dismissed 401
  | role : Dismissed 403
  | route : Dismissed 404
  | method : Dismissed 405

variable {s} {r : Request} {moment : Moment}

section Authority

variable {σ' : Type} {s' : Service σ'} (hs' : s'.authority = s.authority)
include hs'

theorem identify_congr : s'.identify r moment = s.identify r moment := by
  rw [identify, identify, hs']

theorem screen_congr (access : Access) : s'.screen access r moment = s.screen access r moment := by
  cases access with
  | anyone => rfl
  | shopper => rw [screen, screen, identify_congr hs']
  | staff => rw [screen, screen, identify_congr hs']

theorem admitted?_congr : s'.admitted? r moment = s.admitted? r moment := by
  simp only [admitted?, screen_congr hs']

theorem wrongMethod_congr (route : Route) :
    s'.wrongMethod route r moment = s.wrongMethod route r moment := by
  rw [wrongMethod, wrongMethod, identify_congr hs']

end Authority

theorem identify_status {refusal : Refusal} (h : s.identify r moment = .error refusal) :
    Dismissed refusal.status := by
  unfold identify at h
  split at h
  · cases h
    exact .token
  · split at h
    · cases h
      exact .token
    · cases h

theorem screen_status {access : Access} {refusal : Refusal}
    (h : s.screen access r moment = .error refusal) : Dismissed refusal.status := by
  cases access with
  | anyone => cases h
  | shopper =>
    cases hid : s.identify r moment with
    | ok claims => simp [screen, hid, Except.map] at h
    | error e =>
      simp only [screen, hid, Except.map, Except.error.injEq] at h
      exact h ▸ identify_status hid
  | staff =>
    cases hid : s.identify r moment with
    | ok claims =>
      simp only [screen, hid, bind, Except.bind] at h
      split at h
      · cases h
      · cases h
        exact .role
    | error e =>
      simp only [screen, hid, bind, Except.bind, Except.error.injEq] at h
      exact h ▸ identify_status hid

theorem wrongMethod_status (route : Route) :
    Dismissed (s.wrongMethod route r moment).status := by
  unfold wrongMethod
  split
  · cases hid : s.identify r moment with
    | ok claims => exact .method
    | error refusal => exact identify_status hid
  · exact .method

theorem run_respond (shop : Shop σ) :
    s.respond r moment shop = (s.answer r moment shop).map fun p => (sealed r p.1, p.2) := by
  simp only [respond, bind, StateT.bind, Except.bind]
  cases s.answer r moment shop with
  | error o => rfl
  | ok p => rfl

theorem run_settle (action : ServiceAction σ Response) (shop : Shop σ) :
    settle action shop = (action shop).map fun p => (settled p.1, p.2) := by
  simp only [settle, bind, StateT.bind, Except.bind, ExceptT.run]
  rcases action shop with o | ⟨e | a, shop'⟩ <;> rfl

theorem run_serve (endpoint : Endpoint) (shop : Shop σ) :
    s.serve endpoint r moment shop =
      match s.screen endpoint.access r moment with
      | .error refusal => .ok (.error refusal, shop)
      | .ok claims => s.run endpoint ((claims.map (·.subject)).getD "") r moment shop := by
  unfold serve
  rw [run_bind, run_except]
  cases s.screen endpoint.access r moment <;> rfl

theorem run_answerAt (route : Route) (shop : Shop σ) :
    s.answerAt route r moment shop =
      if r.method = "OPTIONS" then
        .ok ({ status := 200, headers := preflightHeaders ++ [("allow", route.allowed)] }, shop)
      else
        match route.endpoint? r.method with
        | none => .ok (s.wrongMethod route r moment, shop)
        | some endpoint => (s.serve endpoint r moment shop).map fun p => (settled p.1, p.2) := by
  unfold answerAt
  split
  · rfl
  · cases route.endpoint? r.method with
    | none => rfl
    | some endpoint => exact run_settle _ shop

theorem run_answer (shop : Shop σ) :
    s.answer r moment shop =
      match Route.ofPath? r.path with
      | none =>
        .ok (if r.method = "OPTIONS" then { status := 200, headers := preflightHeaders }
          else { status := 404 }, shop)
      | some route => (s.answerAt route r moment shop).map fun p =>
        (p.1.withHeaders p.1.body.lengthHeader, p.2) := by
  unfold answer
  cases Route.ofPath? r.path with
  | none => rfl
  | some route =>
    simp only [bind, StateT.bind, Except.bind]
    cases s.answerAt route r moment shop <;> rfl

/-- A response that has no more than a status and a few words. -/
structure Dismisses (response : Response) : Prop where
  status : Dismissed response.status
  silent : ∀ user, response.body ≠ .notices user

theorem wrongMethod_dismisses (route : Route) : Dismisses (s.wrongMethod route r moment) where
  status := wrongMethod_status route
  silent user := by
    intro h
    unfold wrongMethod at h
    split at h
    · cases hid : s.identify r moment with
      | ok claims =>
        rw [hid] at h
        cases h
      | error refusal =>
        rw [hid] at h
        exact Refusal.body_response_ne refusal user h
    · cases h

/-- A request that is not admitted is dismissed at once, whatever the shop, and by every service
of the same authority alike. -/
theorem respond_dismisses_alike (h : s.admitted? r moment = none) :
    ∃ response, Dismisses response ∧ ∀ s' : Service σ, s'.authority = s.authority →
      ∀ shop, s'.respond r moment shop = .ok (response, shop) := by
  have hanswer : ∃ response, Dismisses response ∧ ∀ s' : Service σ, s'.authority = s.authority →
      ∀ shop, s'.answer r moment shop = .ok (response, shop) := by
    unfold admitted? at h
    cases hroute : Route.ofPath? r.path with
    | none =>
      simp only [run_answer, hroute]
      refine ⟨_, ?_, fun _ _ _ => rfl⟩
      split
      · exact ⟨.preflight, fun _ hbody => by cases hbody⟩
      · exact ⟨.route, fun _ hbody => by cases hbody⟩
    | some route =>
      simp only [run_answer, hroute, run_answerAt]
      by_cases hm : r.method = "OPTIONS"
      · simp only [if_pos hm, Except.map]
        refine ⟨_, ?_, fun _ _ _ => rfl⟩
        exact ⟨.preflight, fun _ hbody => by cases hbody⟩
      · simp only [if_neg hm, hroute, Option.bind_eq_bind, Option.bind_some] at h ⊢
        cases hendpoint : route.endpoint? r.method with
        | none =>
          let wrong := s.wrongMethod route r moment
          refine ⟨wrong.withHeaders wrong.body.lengthHeader, ?_, fun s' hs' _ => ?_⟩
          · exact ⟨(wrongMethod_dismisses route).status, (wrongMethod_dismisses route).silent⟩
          · simp only [wrongMethod_congr hs']
            rfl
        | some endpoint =>
          rw [hendpoint, Option.bind_some] at h
          cases hscreen : s.screen endpoint.access r moment with
          | ok claims => simp [hscreen, Except.toOption] at h
          | error refusal =>
            refine ⟨refusal.response.withHeaders refusal.response.body.lengthHeader, ?_,
              fun s' hs' _ => ?_⟩
            · exact ⟨screen_status hscreen, Refusal.body_response_ne refusal⟩
            · simp only [run_serve, screen_congr hs', hscreen]
              rfl
  obtain ⟨response, hdismisses, hanswer⟩ := hanswer
  refine ⟨sealed r response, ⟨?_, fun user hbody => ?_⟩, fun s' hs' shop => ?_⟩
  · rw [sealed_status]
    exact hdismisses.status
  · exact hdismisses.silent user (body_of_sealed hbody).2
  · rw [run_respond, hanswer s' hs']
    rfl

theorem respond_dismisses (h : s.admitted? r moment = none) :
    ∃ response, Dismisses response ∧ ∀ shop, s.respond r moment shop = .ok (response, shop) := by
  obtain ⟨response, hdismisses, hanswer⟩ := respond_dismisses_alike h
  exact ⟨response, hdismisses, hanswer s rfl⟩

/-- A request that is not admitted is answered at once, whatever the shop. -/
theorem respond_dismissed (h : s.admitted? r moment = none) :
    ∃ response, Dismissed response.status ∧
      ∀ shop, s.respond r moment shop = .ok (response, shop) := by
  obtain ⟨response, hdismisses, hanswer⟩ := respond_dismisses h
  exact ⟨response, hdismisses.status, hanswer⟩

/-- A request that is admitted is answered by its endpoint. -/
theorem respond_admitted {endpoint : Endpoint} {user : String}
    (h : s.admitted? r moment = some (endpoint, user)) (shop : Shop σ) :
    s.respond r moment shop =
      (s.run endpoint user r moment shop).map fun p => (finished r p.1, p.2) := by
  unfold admitted? at h
  by_cases hm : r.method = "OPTIONS"
  · simp [hm] at h
  · rw [if_neg hm] at h
    obtain ⟨route, hroute, h⟩ := Option.bind_eq_some_iff.mp h
    obtain ⟨endpoint', hendpoint, h⟩ := Option.bind_eq_some_iff.mp h
    obtain ⟨claims, hclaims, h⟩ := Option.bind_eq_some_iff.mp h
    cases h
    have hscreen : s.screen endpoint.access r moment = .ok claims := by
      cases hs : s.screen endpoint.access r moment with
      | error e => simp [hs, Except.toOption] at hclaims
      | ok c =>
        rw [hs] at hclaims
        cases hclaims
        rfl
    simp only [run_respond, run_answer, hroute, run_answerAt, if_neg hm, hendpoint, run_serve,
      hscreen]
    cases s.run endpoint _ r moment shop <;> rfl

/-- Where the endpoint of an admitted request leads, the request leads. -/
theorem leads_respond {P Q : Shop σ → Prop} (hPQ : ∀ shop, P shop → Q shop)
    (hrun : ∀ endpoint user, s.admitted? r moment = some (endpoint, user) →
      Leads P Q (s.run endpoint user r moment))
    {shop shop' : Shop σ} {response : Response} (hshop : P shop)
    (h : s.respond r moment shop = .ok (response, shop')) : Q shop' := by
  cases hadmitted : s.admitted? r moment with
  | none =>
    obtain ⟨response', -, hanswer⟩ := respond_dismissed hadmitted
    rw [hanswer] at h
    cases h
    exact hPQ shop hshop
  | some admitted =>
    obtain ⟨endpoint, user⟩ := admitted
    rw [respond_admitted hadmitted] at h
    rcases hresult : s.run endpoint user r moment shop with o | ⟨result, shop₁⟩ <;>
      rw [hresult] at h <;> cases h
    exact hrun endpoint user hadmitted shop result _ hshop hresult

/-- What the endpoint keeps, the request keeps. -/
theorem keeps_respond {P : Shop σ → Prop}
    (hrun : ∀ endpoint user, s.admitted? r moment = some (endpoint, user) →
      Keeps P (s.run endpoint user r moment))
    {shop shop' : Shop σ} {response : Response} (hshop : P shop)
    (h : s.respond r moment shop = .ok (response, shop')) : P shop' :=
  leads_respond (Q := P) (fun _ h => h) hrun hshop h

/-- A request that overflows was admitted, and its endpoint overflows. -/
theorem overflows_respond (shop : Shop σ) :
    Checked.Overflows (s.respond r moment shop) ↔
      ∃ endpoint user, s.admitted? r moment = some (endpoint, user) ∧
        Checked.Overflows (s.run endpoint user r moment shop) := by
  rcases h : s.admitted? r moment with _ | ⟨endpoint, user⟩
  · obtain ⟨response, -, hresponse⟩ := respond_dismissed h
    simp [hresponse]
  · simp [respond_admitted h]

end Service

end VolumePricing
