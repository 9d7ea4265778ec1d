import VolumePricing.Proofs.Hub.Announcements

/-!
# What a listener hears

Whoever begins to listen to the hub just before a turn hears what the turn
sends: nothing when the hub is left alone, and what is announced when it takes
in a new summary.
-/

namespace VolumePricing

variable {σ : Type} {store : Store σ} {settings : HubSettings} {user : String}

namespace Channel

variable {α : Type}

theorem receive_subscribe (c : Channel α) : (c.receive c.subscribe).1.messages = [] := by
  simp [receive, subscribe, sent]

/-- A message reaches everyone who listens, also when it takes the place of an old one. -/
theorem receive_send (c : Channel α) (message : α) :
    ((c.send message).receive c.subscribe).1.messages = [message] := by
  unfold send
  split
  · simp [receive, subscribe, sent]
  · have hskip : c.dropped + c.kept.length - (c.dropped + 1) = (c.kept.drop 1).length := by
      rw [List.length_drop]
      omega
    change (c.kept.drop 1 ++ [message]).drop (c.dropped + c.kept.length - (c.dropped + 1)) = _
    rw [hskip, List.drop_left]

end Channel

namespace Hub

variable {h : Hub}

/-- What is announced is heard by whoever began to listen before it. -/
theorem receive_observe (h : Hub) (settings : HubSettings) (user : String)
    (summary : CartSummary) (moment : Moment) :
    ((h.observe settings user summary moment).channel.receive h.channel.subscribe).1.messages =
      (h.announcement? settings user summary moment).toList := by
  rw [observe_channel]
  cases h.announcement? settings user summary moment with
  | none => exact Channel.receive_subscribe _
  | some n => exact Channel.receive_send h.channel n

end Hub

namespace HubEntry

variable {e : HubEntry σ} {summary : CartSummary}

/-- What is heard of a turn by someone who begins to listen just before it. -/
def heard (e : HubEntry σ) : List CartNotification :=
  (e.after.channel.receive e.before.channel.subscribe).1.messages

theorem heard_of_after_eq (h : e.after = e.before) : e.heard = [] := by
  rw [heard, h, Channel.receive_subscribe]

theorem Renews.heard_eq (h : e.Renews store settings user summary) :
    e.heard = (e.before.announcement? settings user summary e.moment).toList := by
  rw [heard, h.after, Hub.receive_observe]

end HubEntry

namespace Hub

variable {h : Hub} {turns : List (HubTurn σ)} {e : HubEntry σ} {entries rest : List (HubEntry σ)}

/-- A turn either has the hub take in a new summary of its shopper, or leaves the hub alone. -/
theorem play_renews_or_rests (he : e ∈ play store settings h turns) :
    (∃ summary, e.Renews store settings e.call.user summary) ∨ e.after = e.before := by
  cases hcall : e.call with
  | refresh user =>
    rcases play_refresh he hcall with hrenews | hfails
    · exact Or.inl hrenews
    · exact Or.inr hfails.after
  | current user =>
    rcases play_current he hcall with ⟨_, -, -, hafter⟩ | ⟨-, hrenews | hfails⟩
    · exact Or.inr hafter
    · exact Or.inl hrenews
    · exact Or.inr hfails.after

/-- A run that begins with some entry begins with the turn that was taken there. -/
theorem play_eq_cons (hrun : play store settings h turns = e :: entries) :
    e.before = h ∧ ∃ later, play store settings e.after later = entries := by
  cases turns with
  | nil => cases hrun
  | cons t ts =>
    obtain ⟨rfl, hrest⟩ := List.cons.inj hrun
    exact ⟨rfl, ts, hrest⟩

/-- The later part of a run is a run of its own. -/
theorem play_eq_append (hrun : play store settings h turns = entries ++ rest) :
    ∃ h' later, play store settings h' later = rest := by
  induction entries generalizing h turns with
  | nil => exact ⟨h, turns, hrun⟩
  | cons e entries ih =>
    obtain ⟨-, later, hlater⟩ := play_eq_cons hrun
    exact ih hlater

end Hub

end VolumePricing
