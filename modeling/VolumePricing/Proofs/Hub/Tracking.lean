import VolumePricing.Proofs.Hub.Turns

/-!
# Who is tracked

A new summary of one shopper leaves what the hub holds of another one alone, or
takes the place of it. The shopper whose summary it is is tracked from then on.
-/

namespace VolumePricing

variable {user other : String}

namespace Hub

variable {ts : List Tracked}

/-- Only the one renewed longest ago is dropped. -/
theorem find?_dropStalest :
    (dropStalest ts).find? (·.user == user) =
      if (stalest ts).map (·.user) = some user then none else ts.find? (·.user == user) := by
  unfold dropStalest
  cases hs : stalest ts with
  | none => simp
  | some s =>
    simp only [Option.map_some, Option.some.injEq]
    rw [List.find?_filter]
    by_cases hne : s.user = user
    · rw [if_pos hne, List.find?_eq_none]
      intro t _
      simp [hne]
    · rw [if_neg hne]
      apply List.find?_congr
      intro t _
      by_cases ht : t.user = user
      · simp [ht, Ne.symm hne]
      · simp [ht]

theorem find?_makeRoom (room : Nat) (ts : List Tracked) (user : String) :
    (makeRoom room ts).find? (·.user == user) =
      if room ≤ ts.length ∧ (stalest ts).map (·.user) = some user then none
      else ts.find? (·.user == user) := by
  unfold makeRoom
  by_cases hroom : room ≤ ts.length
  · simp [hroom, find?_dropStalest]
  · simp [hroom]

/-- A first summary of one shopper takes the place of another, whose summary was renewed longest
ago among as many as may be tracked. -/
structure Evicts (settings : HubSettings) (h : Hub) (newcomer user : String) : Prop where
  untracked : h.find? newcomer = none
  full : settings.room ≤ h.tracked.length
  stalest : (stalest h.tracked).map (·.user) = some user

/-- Whoever gets a new summary is tracked with it. -/
theorem find?_observe_self (h : Hub) (settings : HubSettings) (user : String)
    (summary : CartSummary) (moment : Moment) :
    (h.observe settings user summary moment).find? user =
      some (match h.find? user with
        | some t => t.renew settings.policy summary moment.now
        | none => .first user summary moment.now) := by
  unfold observe
  cases hfind : h.find? user with
  | some t =>
    have hrenewed := find?_modifyFirst (p := fun t => t.user == user)
      (f := fun t => t.renew settings.policy summary moment.now) (fun _ => rfl) h.tracked
    exact hrenewed.trans (congrArg _ hfind)
  | none =>
    have hroom : (makeRoom settings.room h.tracked).find? (·.user == user) = none := by
      rw [find?_makeRoom]
      split
      · rfl
      · exact hfind
    change (makeRoom settings.room h.tracked ++ [_]).find? _ = _
    rw [List.find?_append, hroom]
    simp [Tracked.first]

/-- Another shopper stays as tracked as before, or makes room for the one who is new. -/
theorem find?_observe_of_ne (h : Hub) (settings : HubSettings) (summary : CartSummary)
    (moment : Moment) (hne : other ≠ user) :
    (h.observe settings other summary moment).find? user = h.find? user ∨
      (h.observe settings other summary moment).find? user = none ∧
        h.Evicts settings other user := by
  unfold observe
  cases hfind : h.find? other with
  | some t =>
    refine Or.inl (find?_modifyFirst_of_disjoint ?_ h.tracked)
    intro t ht
    have huser : t.user = other := by simpa using ht
    simp [Tracked.renew, huser, hne]
  | none =>
    have hfirst : List.find? (·.user == user) [Tracked.first other summary moment.now] = none := by
      simp [Tracked.first, hne]
    change (makeRoom settings.room h.tracked ++ [_]).find? _ = _ ∨
      (makeRoom settings.room h.tracked ++ [_]).find? _ = _ ∧ _
    rw [List.find?_append, hfirst, Option.or_none, find?_makeRoom]
    split
    · rename_i hstale
      exact Or.inr ⟨rfl, hfind, hstale.1, hstale.2⟩
    · exact Or.inl rfl

end Hub

end VolumePricing
