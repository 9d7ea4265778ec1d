import VolumePricing.Proofs.Hub.Listening
import VolumePricing.Proofs.Hub.Tracking
import VolumePricing.Proofs.Summary.Unnumbered
import VolumePricing.Service.Stream

/-!
# What a stream hands on

A stream that is read as soon as something has happened hands on what the hub
announced to its shopper, and nothing that it announced to others. What is
announced depends on what the hub last saw of the shopper. Who else is tracked,
and under which numbers carts and lines are kept, has no part in it.
-/

namespace VolumePricing

variable {settings : HubSettings} {user other : String} {summary summary₀ : CartSummary}
  {moment : Moment}

/-- A notice as a stream hands it on. -/
def Frame.of (n : CartNotification) : Frame := ⟨n.notification.notice.kind.tag, n.notification⟩

/-- After a reading a stream stands where one stands that is opened then. -/
theorem NoticeStream.read_opened (before after : Hub) (user : String) :
    ((opened before user).read after).2 = opened after user := rfl

def Tracked.unnumbered (t : Tracked) : Tracked := { t with summary := t.summary.unnumbered }

namespace Hub

variable {h h₀ h' : Hub}

/-- What the shopper's stream hands on after a change of the hub, if it was read just before. -/
def handsOn (before after : Hub) (user : String) : List Frame :=
  ((NoticeStream.opened before user).read after).1

@[simp] theorem handsOn_self (h : Hub) (user : String) : h.handsOn h user = [] := by
  change ((h.channel.receive h.channel.subscribe).1.messages.filter _).map _ = []
  rw [Channel.receive_subscribe]
  rfl

theorem handsOn_observe : h.handsOn (h.observe settings other summary moment) user =
      ((h.announcement? settings other summary moment).toList.filter (·.userId = user)).map .of := by
  change (((h.observe settings other summary moment).channel.receive
    h.channel.subscribe).1.messages.filter _).map _ = _
  rw [receive_observe]
  rfl

theorem userId_of_announcement? {n : CartNotification}
    (hn : h.announcement? settings user summary moment = some n) : n.userId = user := by
  obtain ⟨_, _, -, -, rfl⟩ := announcement?_eq_some hn
  rfl

/-- Nobody is told of the cart of another. -/
theorem handsOn_observe_of_ne (hne : other ≠ user) :
    h.handsOn (h.observe settings other summary moment) user = [] := by
  rw [handsOn_observe, List.map_eq_nil_iff, List.filter_eq_nil_iff]
  intro n hn
  simpa [userId_of_announcement? (Option.mem_toList.mp hn)] using hne

theorem handsOn_observe_self :
    h.handsOn (h.observe settings user summary moment) user =
      (h.announcement? settings user summary moment).toList.map .of := by
  rw [handsOn_observe, List.filter_eq_self.mpr]
  intro n hn
  simpa using userId_of_announcement? (Option.mem_toList.mp hn)

/-- Both hubs last saw the same of the shopper, under numbers that may differ. -/
def AgreeOn (user : String) (h h₀ : Hub) : Prop :=
  (h₀.find? user).map (·.unnumbered) = (h.find? user).map (·.unnumbered)

/-- Numbers give no reason for a notice. -/
theorem announcement?_unnumbered (h : Hub) (settings : HubSettings) (user : String)
    (summary : CartSummary) (moment : Moment) :
    h.announcement? settings user summary moment =
      ((h.find? user).map (·.unnumbered)).bind fun t =>
        (t.notice? settings.policy summary.unnumbered moment.now).map (dispatch user · moment) := by
  unfold announcement?
  cases h.find? user <;> rfl

theorem AgreeOn.announcement? (hagree : AgreeOn user h h₀)
    (hsame : summary₀.unnumbered = summary.unnumbered) :
    h₀.announcement? settings user summary₀ moment =
      h.announcement? settings user summary moment := by
  rw [announcement?_unnumbered, announcement?_unnumbered, hsame, hagree]

theorem AgreeOn.observe (hagree : AgreeOn user h h₀)
    (hsame : summary₀.unnumbered = summary.unnumbered) :
    AgreeOn user (h.observe settings user summary moment)
      (h₀.observe settings user summary₀ moment) := by
  have hseen : ∀ (h : Hub) (summary : CartSummary),
      ((h.observe settings user summary moment).find? user).map (·.unnumbered) =
        some (((h.find? user).map (·.unnumbered)).elim
          (.first user summary.unnumbered moment.now)
          (·.renew settings.policy summary.unnumbered moment.now)) := by
    intro h summary
    rw [find?_observe_self]
    cases h.find? user <;> rfl
  unfold AgreeOn at hagree ⊢
  rw [hseen, hseen, hsame, hagree]

/-- Another shopper's summary leaves the agreement, unless the shopper is dropped for it. -/
theorem AgreeOn.observe_of_ne (hagree : AgreeOn user h h₀) (hne : other ≠ user)
    (hkept : (h.find? user).isSome = true →
      ((h.observe settings other summary moment).find? user).isSome = true) :
    AgreeOn user (h.observe settings other summary moment) h₀ := by
  rcases find?_observe_of_ne h settings summary moment hne with hsame | ⟨hgone, -⟩
  · unfold AgreeOn
    rw [hsame, hagree]
  · have hnone : h.find? user = none := by
      by_contra hsome
      simpa [hgone] using hkept (Option.isSome_iff_ne_none.mpr hsome)
    unfold AgreeOn
    rw [hgone, hagree, hnone]

/-- Both hubs are left alone, or both take in the same summary of the shopper, under numbers that
may differ. -/
inductive Together (settings : HubSettings) (user : String) (moment : Moment) (h h₀ : Hub) :
    Hub → Hub → Prop
  | rest : Together settings user moment h h₀ h h₀
  | observe {summary summary₀ : CartSummary} (hsame : summary₀.unnumbered = summary.unnumbered) :
    Together settings user moment h h₀ (h.observe settings user summary moment)
      (h₀.observe settings user summary₀ moment)

namespace Together

variable {h₀' : Hub} (htogether : Together settings user moment h h₀ h' h₀')
include htogether

theorem agreeOn (hagree : AgreeOn user h h₀) : AgreeOn user h' h₀' := by
  cases htogether with
  | rest => exact hagree
  | observe hsame => exact hagree.observe hsame

/-- The shopper is told the same by both. -/
theorem handsOn_eq (hagree : AgreeOn user h h₀) :
    h₀.handsOn h₀' user = h.handsOn h' user := by
  cases htogether with
  | rest => rw [handsOn_self, handsOn_self]
  | observe hsame =>
    rw [handsOn_observe_self, handsOn_observe_self, hagree.announcement? hsame]

end Together

end Hub

end VolumePricing
