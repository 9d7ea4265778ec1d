import VolumePricing.Proofs.Hub.Turns
import VolumePricing.Proofs.Notice.Candidate
import VolumePricing.Proofs.Summary.Pricing
import VolumePricing.Store.Seed

/-!
# What the hub announces

A turn says at most one thing, and to nobody but the shopper it is for. It says
nothing where there is nothing to compare with, nothing was read, or nothing
has changed; and nothing when a shopper asks for the current summary.
-/

namespace VolumePricing

variable {σ : Type} {store : Store σ} {settings : HubSettings} {user : String}

namespace Hub

/-- What the hub sends when it takes in a new summary. -/
def announcement? (settings : HubSettings) (h : Hub) (user : String) (summary : CartSummary)
    (moment : Moment) : Option CartNotification :=
  (h.find? user).bind fun t =>
    (t.notice? settings.policy summary moment.now).map (dispatch user · moment)

variable {h : Hub} {summary : CartSummary} {moment : Moment} {n : CartNotification}

theorem observe_channel : (h.observe settings user summary moment).channel =
    (h.announcement? settings user summary moment).toList.foldl Channel.send h.channel := by
  unfold observe announcement?
  cases h.find? user with
  | none => rfl
  | some t =>
    simp only [publish, Option.bind_some]
    cases t.notice? settings.policy summary moment.now <;> rfl

theorem announcement?_eq_some (hn : h.announcement? settings user summary moment = some n) :
    ∃ t notice, h.find? user = some t ∧ Notice.candidate t.summary summary = some notice ∧
      n = dispatch user notice moment := by
  obtain ⟨t, ht, hn⟩ := Option.bind_eq_some_iff.mp hn
  obtain ⟨notice, hnotice, rfl⟩ := Option.map_eq_some_iff.mp hn
  exact ⟨t, notice, ht, NoticePolicy.candidate_of_evaluate hnotice, rfl⟩

/-- Without a reason for a notice nothing is sent. -/
theorem announcement?_eq_none
    (hnone : ∀ t, h.find? user = some t → Notice.candidate t.summary summary = none) :
    h.announcement? settings user summary moment = none := by
  cases hn : h.announcement? settings user summary moment with
  | none => rfl
  | some n =>
    obtain ⟨t, notice, ht, hc, -⟩ := announcement?_eq_some hn
    rw [hnone t ht] at hc
    cases hc

end Hub

namespace HubEntry

/-- The turn sends these events, and they are as they should be. -/
structure Announces (store : Store σ) (user : String) (e : HubEntry σ)
    (events : List CartNotification) : Prop where
  sent : e.after.channel = events.foldl Channel.send e.before.channel
  at_most_one : events.length ≤ 1
  addressed : ∀ n ∈ events, n.userId = user
  names_tier : ∀ n ∈ events, ∃ summary, e.answer = .ok (.ok summary) ∧
    n.notification.notice.tierId = summary.tierId
  untracked : e.before.find? user = none → events = []
  cart_unread : ∀ err s, store.cart? user e.store = .ok (.error err, s) → events = []
  tiers_unlisted : ∀ cart s err s', store.cart? user e.store = .ok (.ok cart, s) →
    store.listTiers false s = .ok (.error err, s') → events = []
  none_active : ∀ cart s tiers s', store.cart? user e.store = .ok (.ok cart, s) →
    store.listTiers false s = .ok (.ok tiers, s') → (∀ t ∈ tiers, t.active = false) → events = []
  settled : ∀ t summary, e.before.find? user = some t → e.answer = .ok (.ok summary) →
    summary.tierId = t.summary.tierId → summary.totalQuantity = t.summary.totalQuantity →
    events = []
  failed : (∀ summary, e.answer ≠ .ok (.ok summary)) → e.after = e.before

variable {e : HubEntry σ} {summary : CartSummary}

theorem announces_nil (h : e.after = e.before) : e.Announces store user [] where
  sent := by rw [h]; rfl
  at_most_one := Nat.zero_le 1
  addressed := by simp
  names_tier := by simp
  untracked _ := rfl
  cart_unread _ _ _ := rfl
  tiers_unlisted _ _ _ _ _ _ := rfl
  none_active _ _ _ _ _ _ _ := rfl
  settled _ _ _ _ _ _ := rfl
  failed _ := h

/-- A summary that was priced without any active tier gives no reason for a notice. -/
theorem Renews.candidate_of_none_active (h : e.Renews store settings user summary)
    {cart : Option Cart} {s : σ} (hcart : store.cart? user e.store = .ok (.ok cart, s))
    (hnone : ∀ tiers s', store.activeTiers s = .ok (.ok tiers, s') →
      ∀ t ∈ tiers, t.active = false) (previous : CartSummary) :
    Notice.candidate previous summary = none := by
  obtain ⟨cart', s₁, tiers, s', hcart', htiers, hsum⟩ := h.priced
  rw [hcart] at hcart'
  cases hcart'
  obtain ⟨htier, hnext⟩ := summarizeCart_of_none_active (hnone tiers s' htiers) hsum
  exact Notice.candidate_of_no_tier htier hnext

theorem Renews.announces (h : e.Renews store settings user summary) :
    e.Announces store user
      (e.before.announcement? settings user summary e.moment).toList where
  sent := by rw [h.after, Hub.observe_channel]
  at_most_one := by cases e.before.announcement? settings user summary e.moment <;> simp
  addressed n hn := by
    obtain ⟨t, notice, -, -, rfl⟩ := Hub.announcement?_eq_some (Option.mem_toList.mp hn)
    rfl
  names_tier n hn := by
    obtain ⟨t, notice, -, hc, rfl⟩ := Hub.announcement?_eq_some (Option.mem_toList.mp hn)
    exact ⟨summary, h.answer, Notice.candidate_tierId hc⟩
  untracked hfind := by
    rw [Hub.announcement?_eq_none (by simp [hfind]), Option.toList_none]
  cart_unread err s hcart := by
    obtain ⟨cart, s₁, _, _, hok, -⟩ := h.priced
    rw [hcart] at hok
    cases hok
  tiers_unlisted cart s err s' hcart hlist := by
    rw [Hub.announcement?_eq_none, Option.toList_none]
    refine fun t _ => h.candidate_of_none_active hcart (fun tiers s₂ htiers => ?_) t.summary
    obtain ⟨_, hok, hlisted | ⟨rfl, -⟩⟩ := Store.activeTiers_eq_ok htiers
    · rw [hlist] at hlisted
      cases hlisted
    · cases hok
      simp
  none_active cart s tiers s' hcart hlist hnone := by
    rw [Hub.announcement?_eq_none, Option.toList_none]
    refine fun t _ => h.candidate_of_none_active hcart (fun tiers' s₂ htiers => ?_) t.summary
    obtain ⟨_, hok, hlisted | ⟨rfl, -⟩⟩ := Store.activeTiers_eq_ok htiers
    · rw [hlist] at hlisted
      cases hlisted
      cases hok
      exact hnone
    · cases hok
      simp
  settled t summary' hfind hanswer htier hunits := by
    rw [h.answer] at hanswer
    cases hanswer
    rw [Hub.announcement?_eq_none, Option.toList_none]
    intro t' ht'
    rw [hfind] at ht'
    cases ht'
    exact Notice.candidate_of_settled htier hunits
  failed hno := absurd h.answer (hno summary)

end HubEntry

/-- However the hub came to where it is, and whatever the store does, a turn sends at most one
event, to its own shopper and about the summary just made. A current summary is asked for in
silence. -/
theorem Hub.play_announces {h : Hub} {turns : List (HubTurn σ)} {e : HubEntry σ}
    (he : e ∈ play store settings h turns) :
    ∃ events, e.Announces store e.call.user events ∧
      (e.call = .current e.call.user → events = []) := by
  cases hcall : e.call with
  | refresh user =>
    rcases play_refresh he hcall with ⟨summary, hrenews⟩ | hfails
    · exact ⟨_, hrenews.announces, by simp⟩
    · exact ⟨[], HubEntry.announces_nil hfails.after, by simp⟩
  | current user =>
    rcases play_current he hcall with ⟨_, -, -, hafter⟩ | ⟨hfind, ⟨summary, hrenews⟩ | hfails⟩
    · exact ⟨[], HubEntry.announces_nil hafter, fun _ => rfl⟩
    · exact ⟨_, hrenews.announces, fun _ => hrenews.announces.untracked hfind⟩
    · exact ⟨[], HubEntry.announces_nil hfails.after, fun _ => rfl⟩

/-- A shop in which one shopper has so many shirts in the cart. -/
def Seed.shirts (user : String) (quantity : Int64) : Memory :=
  { tiers := ⟨tiers, 4⟩
    products := .ofProducts products
    carts := ⟨[⟨1, user, [CartTable.newLine 1 (product 1 "Linen shirt" 4000.0) quantity]⟩], 1, 1⟩ }

/-- The sixth shirt unlocks a tier, and the seventh is nothing new. -/
def Seed.unlockTurns : List (HubTurn Memory) :=
  [⟨.refresh "ana", ⟨0, 0⟩, shirts "ana" 5⟩, ⟨.refresh "ana", ⟨10, 1⟩, shirts "ana" 6⟩,
    ⟨.refresh "ana", ⟨20, 2⟩, shirts "ana" 7⟩, ⟨.current "ana", ⟨30, 3⟩, shirts "ana" 7⟩]

theorem Hub.play_announces_unlock :
    ∃ e ∈ Hub.play Memory.store {} (Hub.new {}) Seed.unlockTurns,
      ∃ n, e.Announces Memory.store "ana" [n] := by
  obtain ⟨e, he, hcall, hsent⟩ : ∃ e ∈ Hub.play Memory.store {} (Hub.new {}) Seed.unlockTurns,
      e.call = .refresh "ana" ∧ e.after.channel.sent = e.before.channel.sent + 1 :=
    ⟨_, List.mem_cons_of_mem _ List.mem_cons_self, rfl, rfl⟩
  obtain ⟨events, hevents, -⟩ := Hub.play_announces he
  rw [hcall] at hevents
  match events, hevents.at_most_one with
  | [], _ =>
    rw [hevents.sent] at hsent
    simp at hsent
  | [n], _ => exact ⟨e, he, n, hevents⟩

end VolumePricing
