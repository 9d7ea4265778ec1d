import VolumePricing.Proofs.Hub.Listening
import VolumePricing.Proofs.Hub.Tracking

/-!
# Repeats are held back

As long as a shopper is tracked, the hub remembers the last event that was sent
to this shopper. It holds back what repeats that event within the window, and
nothing else; what is held back is forgotten. So over a whole history two equal
events in a row lie farther apart than the window.
-/

namespace VolumePricing

variable {σ : Type} {store : Store σ} {settings : HubSettings} {user : String}

namespace NoticePolicy

variable {policy : NoticePolicy} {last : Option LastNotice} {n : Notice} {now : Instant}

/-- The last event of the past was of the same kind for the same tier, and is no older than the
window. -/
def IsRepeat (policy : NoticePolicy) (past : List LastNotice) (n : Notice) (now : Instant) : Prop :=
  ∃ l, past.getLast? = some l ∧ l.kind = n.kind ∧ l.tierId = n.tierId ∧ now - l.at_ ≤ policy.span

/-- Equal events are farther apart than the window. -/
def Spaced (policy : NoticePolicy) (a b : LastNotice) : Prop :=
  a.kind = b.kind → a.tierId = b.tierId → policy.span < b.at_ - a.at_

theorem shouldEmit_eq_true_iff :
    policy.shouldEmit last n.kind n.tierId now = true ↔
      ∀ l, last = some l → policy.Spaced l (n.shownAt now) := by
  cases last with
  | none => simp [shouldEmit]
  | some l =>
    simp only [shouldEmit, ne_eq, Bool.or_eq_true, decide_eq_true_eq, Option.some.injEq,
      forall_eq', Spaced, Notice.shownAt]
    tauto

theorem isRepeat_iff {past : List LastNotice} (policy : NoticePolicy) (n : Notice) (now : Instant)
    (hlast : last = past.getLast?) :
    policy.IsRepeat past n now ↔ policy.shouldEmit last n.kind n.tierId now = false := by
  rw [← Bool.not_eq_true, shouldEmit_eq_true_iff, hlast]
  unfold IsRepeat Spaced
  constructor
  · rintro ⟨l, hl, hkind, htier, hrecent⟩ hspaced
    have hfar : policy.span < now - l.at_ := hspaced l hl hkind htier
    exact Int.not_le.mpr hfar hrecent
  · intro hnot
    push Not at hnot
    exact hnot

end NoticePolicy

theorem Tracked.notice?_eq {t : Tracked} {summary : CartSummary} {n : Notice}
    (policy : NoticePolicy) (now : Instant) (hn : Notice.candidate t.summary summary = some n) :
    t.notice? policy summary now =
      if policy.shouldEmit t.last n.kind n.tierId now = true then some n else none := by
  rw [notice?, NoticePolicy.evaluate, hn, Option.filter_some]

namespace HubEntry

variable {e : HubEntry σ} {summary : CartSummary} {past : List LastNotice}

/-- The events of a turn for one shopper, each as the last one shown from then on. -/
def shownTo (user : String) (e : HubEntry σ) : List LastNotice :=
  (e.heard.filter (·.userId == user)).map (·.notification.notice.shownAt e.moment.now)

theorem shownTo_of_heard_eq_nil (h : e.heard = []) : e.shownTo user = [] := by
  rw [shownTo, h]
  rfl

theorem shownTo_of_heard_eq {notice : Option Notice}
    (h : e.heard = (notice.map (Hub.dispatch user · e.moment)).toList) :
    e.shownTo user = (notice.map (·.shownAt e.moment.now)).toList := by
  rw [shownTo, h]
  cases notice with
  | none => rfl
  | some n => simp [Hub.dispatch]

/-- A turn that found a reason for a notice sends it, unless the notice repeats the last event of
the past. A notice that is held back leaves what is remembered of the shopper's events alone. -/
structure Judges (settings : HubSettings) (user : String) (past : List LastNotice)
    (e : HubEntry σ) (n : Notice) : Prop where
  withheld_iff : e.heard = [] ↔ settings.policy.IsRepeat past n e.moment.now
  sent : ¬ settings.policy.IsRepeat past n e.moment.now →
    e.heard = [Hub.dispatch user n e.moment]
  other_sent : (∀ l, past.getLast? = some l → l.kind ≠ n.kind ∨ l.tierId ≠ n.tierId) →
    e.heard = [Hub.dispatch user n e.moment]
  last_kept : e.heard = [] →
    (e.after.find? user).map (·.last) = (e.before.find? user).map (·.last)

theorem Renews.judges {t : Tracked} {n : Notice} (h : e.Renews store settings user summary)
    (hfind : e.before.find? user = some t) (hlast : t.last = past.getLast?)
    (hn : Notice.candidate t.summary summary = some n) :
    e.Judges settings user past n := by
  have hnotice := Tracked.notice?_eq settings.policy e.moment.now hn
  have hheard : e.heard =
      ((t.notice? settings.policy summary e.moment.now).map
        (Hub.dispatch user · e.moment)).toList := by
    rw [h.heard_eq, Hub.announcement?, hfind, Option.bind_some]
  have hrepeat := NoticePolicy.isRepeat_iff settings.policy n e.moment.now hlast
  have hsent : ¬ settings.policy.IsRepeat past n e.moment.now →
      e.heard = [Hub.dispatch user n e.moment] := by
    intro hnew
    rw [hrepeat, Bool.not_eq_false] at hnew
    rw [hheard, hnotice, if_pos hnew]
    rfl
  have hwithheld : settings.policy.IsRepeat past n e.moment.now →
      t.notice? settings.policy summary e.moment.now = none := by
    intro hold
    rw [hrepeat] at hold
    rw [hnotice, if_neg (by simp [hold])]
  have hsilent : e.heard = [] → settings.policy.IsRepeat past n e.moment.now := by
    intro hnothing
    by_contra hnew
    rw [hsent hnew] at hnothing
    cases hnothing
  refine ⟨⟨hsilent, ?_⟩, hsent, ?_, ?_⟩
  · intro hold
    rw [hheard, hwithheld hold]
    rfl
  · intro hother
    apply hsent
    rintro ⟨l, hl, hkind, htier, -⟩
    rcases hother l hl with hne | hne
    · exact hne hkind
    · exact hne htier
  · intro hnothing
    rw [h.after, Hub.find?_observe_self, hfind]
    simp [Tracked.renew, hwithheld (hsilent hnothing)]

end HubEntry

namespace Hub

/-- The events sent to a shopper in some turns, one after the other. -/
def historyOf (user : String) (entries : List (HubEntry σ)) : List LastNotice :=
  entries.flatMap (·.shownTo user)

/-- The turns begin with the one in which the hub takes up the shopper, and it tracks the shopper
to their end. -/
structure TracksThroughout (user : String) (entries : List (HubEntry σ)) : Prop where
  begins : ∀ e ∈ entries.head?, e.before.find? user = none
  stays : ∀ e ∈ entries, (e.after.find? user).isSome = true

/-- Of a shopper whom it tracks the hub remembers the last event of the past. -/
def Remembers (user : String) (past : List LastNotice) (h : Hub) : Prop :=
  (h.find? user).bind (·.last) = past.getLast?

variable {h : Hub} {turns : List (HubTurn σ)} {e : HubEntry σ} {entries rest : List (HubEntry σ)}
  {past : List LastNotice} {summary : CartSummary}

/-- What one turn adds to the past of a shopper: an event or none. -/
structure Adds (settings : HubSettings) (user : String) (past : List LastNotice) (e : HubEntry σ)
    (shown : Option LastNotice) : Prop where
  shownTo : e.shownTo user = shown.toList
  remembers : Remembers user (past ++ shown.toList) e.after
  spaced : ∀ a ∈ past.getLast?, ∀ b ∈ shown, settings.policy.Spaced a b

theorem adds_none (hshown : e.shownTo user = [])
    (hkept : (e.after.find? user).bind (·.last) = (e.before.find? user).bind (·.last))
    (hpast : Remembers user past e.before) : Adds settings user past e none where
  shownTo := hshown
  remembers := by
    rw [Option.toList_none, List.append_nil]
    exact hkept.trans hpast
  spaced := by
    intro a _ b hb
    cases hb

/-- A new summary of the shopper leaves the event it gave rise to as the last one. -/
theorem adds_of_renews (hrenews : e.Renews store settings user summary)
    (hpast : Remembers user past e.before) :
    ∃ shown, Adds settings user past e shown := by
  have hafter := find?_observe_self e.before settings user summary e.moment
  rw [← hrenews.after] at hafter
  have hheard := hrenews.heard_eq
  unfold announcement? at hheard
  cases hfind : e.before.find? user with
  | none =>
    rw [hfind] at hheard hafter
    refine ⟨none, adds_none (HubEntry.shownTo_of_heard_eq_nil hheard) ?_ hpast⟩
    rw [hafter, hfind]
    rfl
  | some t =>
    rw [hfind] at hheard hafter
    have hlast : t.last = past.getLast? := by
      rw [Remembers, hfind] at hpast
      exact hpast
    refine ⟨(t.notice? settings.policy summary e.moment.now).map (·.shownAt e.moment.now),
      HubEntry.shownTo_of_heard_eq hheard, ?_, ?_⟩
    · unfold Remembers
      rw [hafter, List.getLast?_append, ← hlast]
      simp only [Option.bind_some, Tracked.renew]
      cases t.notice? settings.policy summary e.moment.now <;> rfl
    · intro a ha b hb
      obtain ⟨n, hn, rfl⟩ := Option.map_eq_some_iff.mp hb
      have hemit := (Option.filter_eq_some_iff.mp hn).2
      exact NoticePolicy.shouldEmit_eq_true_iff.mp hemit a (hlast.trans ha)

/-- The turn of another shopper sends nothing to this one. -/
theorem shownTo_of_other (hrenews : e.Renews store settings e.call.user summary)
    (hother : e.call.user ≠ user) : e.shownTo user = [] := by
  rw [HubEntry.shownTo, hrenews.heard_eq]
  cases hsent : e.before.announcement? settings e.call.user summary e.moment with
  | none => rfl
  | some n =>
    obtain ⟨t, notice, -, -, rfl⟩ := announcement?_eq_some hsent
    simp [dispatch, hother]

/-- Every turn after which the shopper is tracked adds to the past what it sends there. -/
theorem adds_of_turn (he : e ∈ play store settings h turns)
    (hpast : Remembers user past e.before)
    (hstays : (e.after.find? user).isSome = true) : ∃ shown, Adds settings user past e shown := by
  rcases play_renews_or_rests he with ⟨summary, hrenews⟩ | hrests
  · by_cases hself : e.call.user = user
    · rw [hself] at hrenews
      exact adds_of_renews hrenews hpast
    · refine ⟨none, adds_none (shownTo_of_other hrenews hself) ?_ hpast⟩
      -- A shopper who was dropped would not be tracked now.
      rcases find?_observe_of_ne e.before settings summary e.moment hself with hsame | ⟨hdropped, -⟩
      · rw [hrenews.after, hsame]
      · rw [hrenews.after, hdropped] at hstays
        cases hstays
  · have hshown : e.shownTo user = [] :=
      HubEntry.shownTo_of_heard_eq_nil (HubEntry.heard_of_after_eq hrests)
    refine ⟨none, adds_none hshown ?_ hpast⟩
    rw [hrests]

/-- What holds along a run in which the shopper stays tracked. -/
theorem remembers_of_run (hrun : play store settings h turns = entries ++ rest)
    (hpast : Remembers user past h) (hspaced : past.IsChain settings.policy.Spaced)
    (hstays : ∀ e ∈ entries, (e.after.find? user).isSome = true) :
    (∀ earlier e later, entries = earlier ++ e :: later →
      Remembers user (past ++ historyOf user earlier) e.before) ∧
    (past ++ historyOf user entries).IsChain settings.policy.Spaced := by
  induction entries generalizing h turns past with
  | nil =>
    refine ⟨?_, by simpa [historyOf] using hspaced⟩
    intro earlier e later hsplit
    simp at hsplit
  | cons e entries ih =>
    have he : e ∈ play store settings h turns := by
      rw [hrun]
      exact List.mem_cons_self
    obtain ⟨hbefore, later, hlater⟩ := play_eq_cons hrun
    rw [← hbefore] at hpast
    obtain ⟨shown, hshown, hremembers, hgap⟩ :=
      adds_of_turn he hpast (hstays e List.mem_cons_self)
    have hspaced' : (past ++ shown.toList).IsChain settings.policy.Spaced := by
      refine List.isChain_append.mpr ⟨hspaced, ?_, ?_⟩
      · cases shown <;> simp
      · intro a ha b hb
        cases shown with
        | none => cases hb
        | some c => exact hgap a ha b hb
    obtain ⟨hafter, hchain⟩ := ih hlater hremembers hspaced'
      fun e' he' => hstays e' (List.mem_cons_of_mem _ he')
    constructor
    · intro earlier e' rest' hsplit
      cases earlier with
      | nil =>
        obtain ⟨rfl, -⟩ := List.cons.inj hsplit
        simpa [historyOf] using hpast
      | cons e₀ earlier =>
        obtain ⟨rfl, hrest⟩ := List.cons.inj hsplit
        have hthen := hafter earlier e' rest' hrest
        simpa [historyOf, hshown] using hthen
    · simpa [historyOf, hshown] using hchain

end Hub

/-- Of a shopper who stays tracked, a notice is held back exactly when it repeats the last event
that was sent since tracking began, and no two equal events in a row are sent within the window. -/
theorem Hub.play_withholds_repeats {turns : List (HubTurn σ)}
    {before stretch after : List (HubEntry σ)}
    (hrun : play store settings (new settings) turns = before ++ stretch ++ after)
    (hstretch : TracksThroughout user stretch) :
    (∀ earlier e later t summary n, stretch = earlier ++ e :: later →
      e.call = .refresh user → e.before.find? user = some t → e.answer = .ok (.ok summary) →
      Notice.candidate t.summary summary = some n →
      e.Judges settings user (historyOf user earlier) n) ∧
    (historyOf user stretch).IsChain settings.policy.Spaced := by
  rw [List.append_assoc] at hrun
  obtain ⟨h, later, hthen⟩ := play_eq_append hrun
  cases stretch with
  | nil =>
    refine ⟨?_, List.isChain_nil⟩
    intro earlier e rest t summary n hsplit
    simp at hsplit
  | cons first stretch =>
    have hbegins : Remembers user [] h := by
      obtain ⟨hbefore, -⟩ := play_eq_cons hthen
      have hnew := hstretch.begins first rfl
      rw [hbefore] at hnew
      rw [Remembers, hnew]
      rfl
    obtain ⟨hremembers, hchain⟩ :=
      remembers_of_run hthen hbegins List.isChain_nil hstretch.stays
    refine ⟨?_, hchain⟩
    intro earlier e rest t summary n hsplit hcall hfind hanswer hn
    have he : e ∈ play store settings h later := by
      rw [hthen, hsplit]
      simp
    rcases play_refresh he hcall with ⟨summary', hrenews⟩ | hfails
    · have hsame : summary' = summary := by
        have hboth := hrenews.answer.symm.trans hanswer
        simpa using hboth
      rw [hsame] at hrenews
      have hlast := hremembers earlier e rest hsplit
      rw [Remembers, hfind] at hlast
      exact hrenews.judges hfind hlast hn
    · exact absurd hanswer (hfails.answer summary)

/-- A shopper who goes back and forth between four and five shirts, once a second. -/
def Seed.flapTurns : List (HubTurn Memory) :=
  [⟨.refresh "ana", ⟨0, 0⟩, shirts "ana" 4⟩, ⟨.refresh "ana", ⟨1000000000, 1⟩, shirts "ana" 5⟩,
    ⟨.refresh "ana", ⟨2000000000, 2⟩, shirts "ana" 4⟩,
    ⟨.refresh "ana", ⟨3000000000, 3⟩, shirts "ana" 5⟩]

/-- The fourth turn would tell once more that the next tier is near, and says nothing. -/
theorem Hub.play_withholds_repeats_flapping :
    ∃ earlier e n, play Memory.store {} (new {}) Seed.flapTurns = earlier ++ [e] ∧
      (historyOf "ana" earlier).length = 1 ∧ n.kind = .nearTier ∧
      e.Judges {} "ana" (historyOf "ana" earlier) n ∧ e.heard = [] := by
  have hrun : play Memory.store {} (new {}) Seed.flapTurns =
      [] ++ play Memory.store {} (new {}) Seed.flapTurns ++ [] := (List.append_nil _).symm
  have hstretch : TracksThroughout "ana" (play Memory.store {} (new {}) Seed.flapTurns) := by
    refine ⟨?_, ?_⟩
    · intro e he
      cases he
      rfl
    · rw [← List.all_eq_true]
      rfl
  obtain ⟨hjudges, -⟩ := Hub.play_withholds_repeats hrun hstretch
  let run := play Memory.store {} (new {}) Seed.flapTurns
  have hsplit : run = run.take 3 ++ [run.getLast (by simp [run, Seed.flapTurns, play])] := rfl
  refine ⟨run.take 3, run.getLast (by simp [run, Seed.flapTurns, play]), _, hsplit, ?_, ?_,
    hjudges _ _ [] _ _ _ hsplit rfl rfl rfl rfl, ?_⟩
  · rfl
  · rfl
  · rfl

end VolumePricing
