import VolumePricing.Proofs.Service.Tokens

/-!
# The routes of staff

Staff create, order, read, change and delete tiers and have the stored prices
renewed. On these routes the token is looked at before anything else of the
request: what is refused for its token is refused in the same way whatever
stands in its body and in the rest of its path.
-/

namespace VolumePricing

open Http (Request Response)

namespace Text

theorem splitAll_append_cons (c : Char) (xs ys : List Char) :
    splitAll c (xs ++ c :: ys) = splitAll c xs ++ splitAll c ys := by
  induction xs with
  | nil => simp [splitAll]
  | cons x xs ih =>
    by_cases hx : x = c
    · simp [splitAll, hx, ih]
    · rw [List.cons_append, splitAll, splitAll, if_neg hx, if_neg hx, ih]
      cases hsplit : splitAll c xs with
      | nil => exact absurd hsplit (splitAll_ne_nil c xs)
      | cons p ps => rfl

theorem splitAll_of_not_mem {c : Char} {xs : List Char} (h : c ∉ xs) : splitAll c xs = [xs] := by
  induction xs with
  | nil => rfl
  | cons x xs ih =>
    rw [List.mem_cons, not_or] at h
    rw [splitAll, if_neg (Ne.symm h.1), ih h.2]

end Text

/-- The methods and paths that are for staff. The names of the other routes below the tiers are no
ids. -/
inductive StaffRoute : String → List Char → Prop
  | create : StaffRoute "POST" "/settings/price-tiers".toList
  | reorder : StaffRoute "PUT" "/settings/price-tiers/reorder".toList
  | recalculate : StaffRoute "POST" "/settings/price-tiers/recalculate-products".toList
  | tier {method : String} {id : List Char} (hmethod : method ∈ ["GET", "HEAD", "PUT", "DELETE"])
    (hid : id ≠ []) (hslash : '/' ∉ id)
    (hnamed : String.ofList id ∉ ["calculate", "reorder", "recalculate-products"]) :
    StaffRoute method ("/settings/price-tiers".toList ++ '/' :: id)

namespace StaffRoute

variable {method : String} {path : List Char}

/-- What is no name of another route below the tiers is the id of a tier. -/
theorem ofPath?_tier {id : List Char} (hid : id ≠ []) (hslash : '/' ∉ id)
    (hnamed : String.ofList id ∉ ["calculate", "reorder", "recalculate-products"]) :
    Route.ofPath? ("/settings/price-tiers".toList ++ '/' :: id) = some (.tier id) := by
  have hsplit : (Text.splitAll '/' ("/settings/price-tiers".toList ++ '/' :: id)).map String.ofList =
      ["", "settings", "price-tiers", String.ofList id] := by
    rw [Text.splitAll_append_cons, Text.splitAll_of_not_mem hslash, List.map_append]
    rfl
  have hempty : String.ofList id ≠ "" := by
    intro h
    exact hid (by simpa using congrArg String.toList h)
  simp only [List.mem_cons, List.not_mem_nil, or_false, not_or] at hnamed
  unfold Route.ofPath?
  rw [hsplit]
  simp [hnamed, hempty]

/-- A route of staff leads to an endpoint of staff. -/
theorem exists_endpoint (h : StaffRoute method path) :
    method ≠ "OPTIONS" ∧ ∃ route endpoint, Route.ofPath? path = some route ∧
      route.endpoint? method = some endpoint ∧ endpoint.access = .staff := by
  cases h with
  | create => exact ⟨by decide, .tiers, .createTier, by decide +kernel, rfl, rfl⟩
  | reorder => exact ⟨by decide, .reorder, .reorderTiers, by decide +kernel, rfl, rfl⟩
  | recalculate => exact ⟨by decide, .recalculate, .recalculate, by decide +kernel, rfl, rfl⟩
  | tier hmethod hid hslash hnamed =>
    have hroute := ofPath?_tier hid hslash hnamed
    simp only [List.mem_cons, List.not_mem_nil, or_false] at hmethod
    rcases hmethod with rfl | rfl | rfl | rfl
    · exact ⟨by decide, _, .getTier _, hroute, rfl, rfl⟩
    · exact ⟨by decide, _, .getTier _, hroute, rfl, rfl⟩
    · exact ⟨by decide, _, .updateTier _, hroute, rfl, rfl⟩
    · exact ⟨by decide, _, .deleteTier _, hroute, rfl, rfl⟩

end StaffRoute

namespace Service

variable {σ : Type} {s : Service σ} {r : Request} {moment : Moment}

/-- Every request of the same method and token on a route of staff is answered so and leaves the
shop as it is, whatever the rest of its path and its body. -/
def AnswersUnread (s : Service σ) (r : Request) (moment : Moment) (response : Response) : Prop :=
  ∀ r' : Request, r'.method = r.method → Extract.bearer? r' = Extract.bearer? r →
    StaffRoute r'.method r'.path → ∀ shop, s.respond r' moment shop = .ok (response, shop)

/-- Whoever is refused as no member of staff is refused on every route of staff alike. -/
theorem answersUnread_of_screen {refusal : Refusal}
    (h : s.screen .staff r moment = .error refusal) :
    s.AnswersUnread r moment (finished r (.error refusal)) := by
  intro r' hmethod hbearer hroute shop
  have hscreen : s.screen .staff r' moment = .error refusal := by
    rw [← h]
    simp only [screen, identify, hbearer]
  have hsame : finished r' (.error refusal) = finished r (.error refusal) := by
    simp only [finished, sealed, hmethod]
  obtain ⟨hoptions, route, endpoint, hpath, hendpoint, haccess⟩ := hroute.exists_endpoint
  rw [← hsame, run_respond, run_answer, hpath]
  simp only [run_answerAt, if_neg hoptions, hendpoint, run_serve, haccess, hscreen, Except.map]
  rfl

/-- Where it asks for a route of staff, a request without a token that verifies is answered 401,
and one with a token of another role 403. -/
theorem respond_staffRoute (s : Service σ) (r : Request) (moment : Moment) :
    ((∀ claims, ¬ s.Carries r moment claims) →
      ∃ response, response.status = 401 ∧ s.AnswersUnread r moment response) ∧
    ∀ claims, s.Carries r moment claims → claims.role ≠ "ADMIN" → claims.role ≠ "MANAGER" →
      ∃ response, response.status = 403 ∧ s.AnswersUnread r moment response := by
  obtain ⟨hanyone, hothers⟩ := screen_staff_refused s r moment
  constructor
  · intro h
    obtain ⟨refusal, hscreen, hstatus⟩ := hanyone h
    exact ⟨_, (finished_status r (.error refusal)).trans hstatus, answersUnread_of_screen hscreen⟩
  · intro claims hcarries hadmin hmanager
    obtain ⟨refusal, hscreen, hstatus⟩ := hothers claims hcarries hadmin hmanager
    exact ⟨_, (finished_status r (.error refusal)).trans hstatus, answersUnread_of_screen hscreen⟩

end Service

end VolumePricing
