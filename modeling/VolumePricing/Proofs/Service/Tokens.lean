import VolumePricing.Proofs.Service.Admission

/-!
# Who asks

The service knows of the one who asks what the token of the request claims, when
there is a token and it verifies. Shoppers are let in for the subject of their
token, and staff by its role.
-/

namespace VolumePricing

open VolumePricing.Action
open Http (Request Response)

namespace Service

variable {σ : Type} (s : Service σ)

/-- The request carries a token that verifies with these claims. -/
def Carries (r : Request) (moment : Moment) (claims : Claims) : Prop :=
  ∃ token, Extract.bearer? r = some token ∧ s.authority.verify token moment.now = some claims

/-- The token of the request names the shopper. -/
def SpeaksFor (user : String) (r : Request) (moment : Moment) : Prop :=
  ∃ claims, s.Carries r moment claims ∧ claims.subject = user

/-- The token of the request has a role of staff. -/
def FromStaff (r : Request) (moment : Moment) : Prop :=
  ∃ claims, s.Carries r moment claims ∧ (claims.role = "ADMIN" ∨ claims.role = "MANAGER")

variable {s} {r : Request} {moment : Moment} {claims : Claims} {endpoint : Endpoint}
  {user : String}

theorem isStaff_eq_true {role : String} :
    Role.isStaff role = true ↔ role = "ADMIN" ∨ role = "MANAGER" := by
  simp [Role.isStaff, Role.admin, Role.manager]

theorem identify_eq_ok : s.identify r moment = .ok claims ↔ s.Carries r moment claims := by
  unfold identify Carries
  cases hbearer : Extract.bearer? r with
  | none => simp
  | some token => cases hverify : s.authority.verify token moment.now <;> simp [hverify]

/-- Without a token that verifies there is nobody to identify. -/
theorem identify_of_not_carries (h : ∀ claims, ¬ s.Carries r moment claims) :
    ∃ refusal, s.identify r moment = .error refusal ∧ refusal.status = 401 := by
  unfold identify
  cases hbearer : Extract.bearer? r with
  | none => exact ⟨_, rfl, rfl⟩
  | some token =>
    cases hverify : s.authority.verify token moment.now with
    | none => exact ⟨.invalidToken, by simp [hverify], rfl⟩
    | some claims => exact absurd ⟨token, hbearer, hverify⟩ (h claims)

/-- Whoever is let in is at an endpoint of the route. -/
theorem route_of_admitted (h : s.admitted? r moment = some (endpoint, user)) :
    ∃ route, Route.ofPath? r.path = some route ∧ route.endpoint? r.method = some endpoint := by
  unfold admitted? at h
  split at h
  · cases h
  · obtain ⟨route, hroute, h⟩ := Option.bind_eq_some_iff.mp h
    obtain ⟨endpoint', hendpoint, h⟩ := Option.bind_eq_some_iff.mp h
    obtain ⟨claims, -, h⟩ := Option.bind_eq_some_iff.mp h
    cases h
    exact ⟨route, hroute, hendpoint⟩

/-- Whoever is let in has passed the check of the endpoint. -/
theorem screen_of_admitted (h : s.admitted? r moment = some (endpoint, user)) :
    ∃ claims, s.screen endpoint.access r moment = .ok claims ∧
      user = (claims.map (·.subject)).getD "" := by
  unfold admitted? at h
  split at h
  · cases h
  · obtain ⟨route, -, h⟩ := Option.bind_eq_some_iff.mp h
    obtain ⟨endpoint', -, h⟩ := Option.bind_eq_some_iff.mp h
    obtain ⟨claims, hclaims, h⟩ := Option.bind_eq_some_iff.mp h
    cases h
    cases hscreen : s.screen endpoint.access r moment with
    | error e => simp [hscreen, Except.toOption] at hclaims
    | ok found =>
      rw [hscreen] at hclaims
      cases hclaims
      exact ⟨claims, rfl, rfl⟩

theorem speaksFor_of_screen {claims : Option Claims}
    (h : s.screen .shopper r moment = .ok claims) :
    s.SpeaksFor ((claims.map (·.subject)).getD "") r moment := by
  cases hid : s.identify r moment with
  | error e => simp [screen, hid, Except.map] at h
  | ok found =>
    simp only [screen, hid, Except.map, Except.ok.injEq] at h
    subst h
    exact ⟨found, identify_eq_ok.mp hid, rfl⟩

theorem speaksFor_of_admitted (h : s.admitted? r moment = some (endpoint, user))
    (haccess : endpoint.access = .shopper) : s.SpeaksFor user r moment := by
  obtain ⟨claims, hscreen, rfl⟩ := screen_of_admitted h
  exact speaksFor_of_screen (haccess ▸ hscreen)

theorem fromStaff_of_admitted (h : s.admitted? r moment = some (endpoint, user))
    (haccess : endpoint.access = .staff) : s.FromStaff r moment := by
  obtain ⟨claims, hscreen, -⟩ := screen_of_admitted h
  rw [haccess] at hscreen
  cases hid : s.identify r moment with
  | error e => simp [screen, hid, bind, Except.bind] at hscreen
  | ok found =>
    simp only [screen, hid, bind, Except.bind] at hscreen
    split at hscreen
    · rename_i hrole
      exact ⟨found, identify_eq_ok.mp hid, isStaff_eq_true.mp hrole⟩
    · cases hscreen

/-- Staff are refused for their token or for their role. -/
theorem screen_staff_refused (s : Service σ) (r : Request) (moment : Moment) :
    ((∀ claims, ¬ s.Carries r moment claims) →
      ∃ refusal, s.screen .staff r moment = .error refusal ∧ refusal.status = 401) ∧
    (∀ claims, s.Carries r moment claims → claims.role ≠ "ADMIN" → claims.role ≠ "MANAGER" →
      ∃ refusal, s.screen .staff r moment = .error refusal ∧ refusal.status = 403) := by
  constructor
  · intro h
    obtain ⟨refusal, hid, hstatus⟩ := identify_of_not_carries h
    exact ⟨refusal, by simp [screen, hid, bind, Except.bind], hstatus⟩
  · intro claims hcarries hadmin hmanager
    have hrole : Role.isStaff claims.role = false := by
      simp [Role.isStaff, Role.admin, Role.manager, hadmin, hmanager]
    refine ⟨.staffOnly, ?_, rfl⟩
    simp [screen, identify_eq_ok.mpr hcarries, bind, Except.bind, hrole]
    rfl

end Service

end VolumePricing
