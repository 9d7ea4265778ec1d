import VolumePricing.Proofs.Hub.Listening
import VolumePricing.Proofs.Hub.Renewals

/-!
# Who stays tracked

The hub tracks the shoppers whose summaries were renewed last, as many as it has
room for. It only ever compares the times of those it tracks; that these are the
latest of all is an invariant of the whole history. A shopper who is dropped was
renewed longer ago than any other, and those dropped before still longer ago.
-/

namespace VolumePricing

variable {σ : Type} {store : Store σ} {settings : HubSettings} {user : String}

namespace Renewal

variable {rs : List Renewal} {r : Renewal}

/-- Renewals at different times are told apart by them. -/
theorem eq_of_time (hinc : rs.Pairwise (·.time < ·.time)) {a b : Renewal} (ha : a ∈ rs)
    (hb : b ∈ rs) (htime : a.time = b.time) : a = b := by
  have htimes : (rs.map (·.time)).Nodup := by
    rw [List.Nodup, List.pairwise_map]
    exact hinc.imp Int.ne_of_lt
  exact List.inj_on_of_nodup_map htimes ha hb htime

/-- The last renewal of a shopper is the latest one. -/
theorem time_le_of_last? (hinc : rs.Pairwise (·.time < ·.time)) (h : last? rs user = some r)
    {a : Renewal} (ha : a ∈ rs) (hu : a.user = user) : a.time ≤ r.time := by
  obtain ⟨-, front, back, hsplit, hfront⟩ := List.find?_eq_some_iff_append.mp h
  have hdec : (front ++ r :: back).Pairwise (fun a b => b.time < a.time) := by
    rw [← hsplit]
    exact List.pairwise_reverse.mpr hinc
  have hmem : a ∈ front ++ r :: back := by
    rw [← hsplit]
    exact List.mem_reverse.mpr ha
  rcases List.mem_append.mp hmem with hmem | hmem
  · have hskipped := hfront a hmem
    simp [hu] at hskipped
  · rcases List.mem_cons.mp hmem with rfl | hmem
    · exact le_rfl
    · have hafter := (List.pairwise_cons.mp (List.pairwise_append.mp hdec).2.1).1 a hmem
      exact hafter.le

end Renewal

open Renewal

namespace Hub

variable {ts kept : List Tracked} {t s : Tracked} {room : ℕ} {rs : List Renewal}

/-! ### The invariant -/

/-- The shoppers tracked are the latest ones of those renewed: each of them was renewed after all
who are not tracked. -/
structure KeepsLatest (room : ℕ) (rs : List Renewal) (ts : List Tracked) : Prop
    extends Keeps room rs ts where
  newer : ∀ t ∈ ts, ∀ r ∈ rs, (∀ t' ∈ ts, t'.user ≠ r.user) → r.time < t.refreshedAt

theorem keepsLatest_nil (room : ℕ) : KeepsLatest room [] [] := ⟨keeps_nil room, by simp⟩

/-- A shopper who was not tracked comes in behind those who are kept, provided that nobody was
dropped who came after one of these. -/
theorem KeepsLatest.append_first {summary : CartSummary} {now : Instant}
    (hnow : ∀ r ∈ rs, r.time < now)
    (hkeeps : Keeps room (rs ++ [⟨user, summary, now⟩]) (kept ++ [.first user summary now]))
    (hnewer : ∀ t ∈ kept, ∀ r ∈ rs, (∀ t' ∈ kept, t'.user ≠ r.user) → r.time < t.refreshedAt) :
    KeepsLatest room (rs ++ [⟨user, summary, now⟩]) (kept ++ [.first user summary now]) := by
  refine ⟨hkeeps, ?_⟩
  intro t ht r hr hout
  rcases List.mem_append.mp hr with hr | hr
  · rcases List.mem_append.mp ht with ht | ht
    · exact hnewer t ht r hr fun t' ht' => hout t' (List.mem_append_left _ ht')
    · rw [List.mem_singleton.mp ht]
      exact hnow r hr
  · have hself := hout (.first user summary now) (List.mem_append_right _ List.mem_cons_self)
    rw [List.mem_singleton.mp hr] at hself
    exact absurd rfl hself

section Renew

variable {summary : CartSummary} {now : Instant} (h : KeepsLatest room rs ts)
  (hnow : ∀ r ∈ rs, r.time < now)
include h hnow

/-- A tracked shopper is renewed in place. -/
theorem KeepsLatest.renew (policy : NoticePolicy) (summary : CartSummary) (ht : t ∈ ts)
    (hu : t.user = user) :
    KeepsLatest room (rs ++ [⟨user, summary, now⟩])
      (modifyFirst (·.user == user) (·.renew policy summary now) ts) := by
  refine ⟨h.toKeeps.renew policy summary now ht hu, ?_⟩
  intro t' ht' r hr hout
  -- Who is not tracked now was not tracked before.
  have hout' : ∀ t₀ ∈ ts, t₀.user ≠ r.user := by
    intro t₀ ht₀ heq
    have hmem : t₀.user ∈ ts.map (·.user) := List.mem_map_of_mem ht₀
    rw [← users_renewed policy summary now] at hmem
    obtain ⟨t₁, ht₁, hu₁⟩ := List.mem_map.mp hmem
    exact hout t₁ ht₁ (hu₁.trans heq)
  rcases List.mem_append.mp hr with hr | hr
  · rcases mem_renewed h.nodup ht' with ⟨-, -, hn'⟩ | ⟨hmem, -⟩
    · rw [hn']
      exact hnow r hr
    · exact h.newer t' hmem r hr hout'
  · rw [List.mem_singleton.mp hr] at hout'
    exact absurd hu (hout' t ht)

/-- Where there is none left a new shopper takes the place of the one renewed longest ago. -/
theorem KeepsLatest.makeRoom (hnew : ∀ t ∈ ts, t.user ≠ user) (hpos : 0 < room)
    (hinc : rs.Pairwise (·.time < ·.time)) :
    KeepsLatest room (rs ++ [⟨user, summary, now⟩])
      (makeRoom room ts ++ [.first user summary now]) := by
  refine .append_first hnow (h.toKeeps.makeRoom hnew summary now hpos) ?_
  unfold Hub.makeRoom
  split
  · rename_i hfull
    have hne : ts ≠ [] := List.ne_nil_of_length_pos (by omega)
    obtain ⟨s, hs, hdrop⟩ := exists_dropStalest_eq hne
    obtain ⟨hsmem, hsle⟩ := stalest_eq_some hs
    rw [hdrop]
    intro t ht r hr hout
    obtain ⟨htmem, htne⟩ := List.mem_filter.mp ht
    by_cases hrs : r.user = s.user
    · -- Renewals of the dropped shopper are not later than the last one, which is the oldest.
      have hlast := time_le_of_last? hinc (h.last s hsmem) hr hrs
      have hle := hsle t htmem
      have hne : s.refreshedAt ≠ t.refreshedAt := by
        intro htime
        have hsame := eq_of_time hinc (last?_eq_some (h.last s hsmem)).1
          (last?_eq_some (h.last t htmem)).1 htime
        have husers : s.user = t.user := congrArg Renewal.user hsame
        simp [husers] at htne
      exact lt_of_le_of_lt hlast (lt_of_le_of_ne hle hne)
    · refine h.newer t htmem r hr fun t' ht' heq => ?_
      refine hout t' (List.mem_filter.mpr ⟨ht', ?_⟩) heq
      simpa [heq] using hrs
  · exact h.newer

end Renew

theorem KeepsLatest.observe {h : Hub} (hkeeps : KeepsLatest settings.room rs h.tracked)
    (summary : CartSummary) (moment : Moment) (hnow : ∀ r ∈ rs, r.time < moment.now)
    (hinc : rs.Pairwise (·.time < ·.time)) :
    KeepsLatest settings.room (rs ++ [⟨user, summary, moment.now⟩])
      (h.observe settings user summary moment).tracked := by
  unfold Hub.observe
  cases hfind : h.find? user with
  | some t =>
    have hmem : t ∈ h.tracked := List.mem_of_find?_eq_some hfind
    have hu : t.user = user := by simpa using List.find?_some hfind
    exact hkeeps.renew hnow settings.policy summary hmem hu
  | none =>
    have hnew : ∀ t ∈ h.tracked, t.user ≠ user := by
      simpa [find?, List.find?_eq_none] using hfind
    exact hkeeps.makeRoom hnow hnew settings.room_pos hinc

end Hub

/-! ### Turns and runs -/

namespace HubEntry

variable {e : HubEntry σ}

/-- The renewal that a turn was: a refresh that came through, asked for as such or by a current
call for a shopper who was not tracked. -/
def renewal? (e : HubEntry σ) : Option Renewal :=
  match e.call, e.answer with
  | .refresh user, .ok (.ok summary) => some ⟨user, summary, e.moment.now⟩
  | .current user, .ok (.ok summary) =>
    if (e.before.find? user).isSome then none else some ⟨user, summary, e.moment.now⟩
  | _, _ => none

/-- The renewals of some turns, one after the other. -/
def renewals (entries : List (HubEntry σ)) : List Renewal := entries.filterMap (·.renewal?)

theorem renewals_append (xs ys : List (HubEntry σ)) :
    renewals (xs ++ ys) = renewals xs ++ renewals ys := List.filterMap_append

theorem renewals_singleton (e : HubEntry σ) : renewals [e] = e.renewal?.toList := by
  unfold renewals
  cases h : e.renewal? <;> simp [h]

theorem Renews.renewal?_refresh {summary : CartSummary} (h : e.Renews store settings user summary)
    (hcall : e.call = .refresh user) : e.renewal? = some ⟨user, summary, e.moment.now⟩ := by
  simp [renewal?, hcall, h.answer]

theorem Renews.renewal?_current {summary : CartSummary} (h : e.Renews store settings user summary)
    (hcall : e.call = .current user) (hfind : e.before.find? user = none) :
    e.renewal? = some ⟨user, summary, e.moment.now⟩ := by
  simp [renewal?, hcall, h.answer, hfind]

theorem Fails.renewal? (h : e.Fails) : e.renewal? = none := by
  unfold HubEntry.renewal?
  split
  · rename_i hanswer
    exact absurd hanswer (h.answer _)
  · rename_i hanswer
    exact absurd hanswer (h.answer _)
  · rfl

end HubEntry

namespace Hub

open HubEntry

variable {h : Hub} {turns : List (HubTurn σ)} {e : HubEntry σ} {earlier later : List (HubEntry σ)}
  {past : List Renewal}

/-- A turn is a renewal that the hub takes in, or leaves the hub alone. -/
theorem play_renewal? (he : e ∈ play store settings h turns) :
    (∃ summary, e.renewal? = some ⟨e.call.user, summary, e.moment.now⟩ ∧
      e.Renews store settings e.call.user summary) ∨
    e.renewal? = none ∧ e.after = e.before := by
  cases hcall : e.call with
  | refresh user =>
    rcases play_refresh he hcall with ⟨summary, hrenews⟩ | hfails
    · exact Or.inl ⟨summary, hrenews.renewal?_refresh hcall, hrenews⟩
    · exact Or.inr ⟨hfails.renewal?, hfails.after⟩
  | current user =>
    rcases play_current he hcall with ⟨t, hfind, -, hafter⟩ | ⟨hfind, ⟨summary, hrenews⟩ | hfails⟩
    · refine Or.inr ⟨?_, hafter⟩
      unfold renewal?
      rw [hcall]
      split <;> simp_all
    · exact Or.inl ⟨summary, hrenews.renewal?_current hcall hfind, hrenews⟩
    · exact Or.inr ⟨hfails.renewal?, hfails.after⟩

theorem KeepsLatest.turn (hkeeps : KeepsLatest settings.room past e.before.tracked)
    (he : e ∈ play store settings h turns)
    (hinc : (past ++ e.renewal?.toList).Pairwise (·.time < ·.time)) :
    KeepsLatest settings.room (past ++ e.renewal?.toList) e.after.tracked := by
  rcases play_renewal? he with ⟨summary, hrenewal, hrenews⟩ | ⟨hnone, hafter⟩
  · rw [hrenewal, Option.toList_some] at hinc ⊢
    obtain ⟨hpast, -, hnow⟩ := List.pairwise_append.mp hinc
    rw [hrenews.after]
    exact hkeeps.observe summary e.moment (fun r hr => hnow r hr _ List.mem_cons_self) hpast
  · rw [hnone, Option.toList_none, List.append_nil, hafter]
    exact hkeeps

/-- Before every turn of a run those are tracked who were the latest up to then. -/
theorem keepsLatest_of_run (hrun : play store settings h turns = earlier ++ e :: later)
    (hstart : KeepsLatest settings.room past h.tracked)
    (hinc : (past ++ renewals earlier).Pairwise (·.time < ·.time)) :
    KeepsLatest settings.room (past ++ renewals earlier) e.before.tracked := by
  induction earlier generalizing h turns past with
  | nil =>
    obtain ⟨hbefore, -⟩ := play_eq_cons hrun
    rw [hbefore]
    simpa [renewals] using hstart
  | cons e₀ earlier ih =>
    have he₀ : e₀ ∈ play store settings h turns := by
      rw [hrun]
      exact List.mem_cons_self
    obtain ⟨hbefore, rest, hrest⟩ := play_eq_cons hrun
    rw [← hbefore] at hstart
    rw [show e₀ :: earlier = [e₀] ++ earlier from rfl, renewals_append, renewals_singleton,
      ← List.append_assoc] at hinc ⊢
    have hfirst := (List.pairwise_append.mp hinc).1
    exact ih hrest (hstart.turn he₀ hfirst) hinc

end Hub

/-- What a turn leaves as it was: a shopper who is tracked already takes nobody's place, an answer
from the hub is no renewal, and neither is a refresh that fails. -/
structure HubEntry.Spares (e : HubEntry σ) : Prop where
  evicts_nobody : (e.before.find? e.call.user).isSome = true →
    e.after.tracked.map (·.user) = e.before.tracked.map (·.user)
  current : ∀ user t, e.call = .current user → e.before.find? user = some t →
    e.answer = .ok (.ok t.summary) ∧ e.renewal? = none ∧ e.after = e.before
  failed : (∀ summary, e.answer ≠ .ok (.ok summary)) → e.renewal? = none ∧ e.after = e.before

theorem Hub.play_spares {h : Hub} {turns : List (HubTurn σ)} {e : HubEntry σ}
    (he : e ∈ play store settings h turns) : e.Spares where
  evicts_nobody := by
    intro htracked
    obtain ⟨t, hfind⟩ := Option.isSome_iff_exists.mp htracked
    rcases play_renewal? he with ⟨summary, -, hrenews⟩ | ⟨-, hafter⟩
    · rw [hrenews.after, observe, hfind]
      refine map_modifyFirst (fun t => ?_) e.before.tracked
      rfl
    · rw [hafter]
  current := by
    intro user t hcall hfind
    rcases play_current he hcall with ⟨t', hfind', hanswer, hafter⟩ | ⟨hnone, -⟩
    · rw [hfind] at hfind'
      cases hfind'
      refine ⟨hanswer, ?_, hafter⟩
      simp [HubEntry.renewal?, hcall, hanswer, hfind]
    · rw [hfind] at hnone
      cases hnone
  failed := by
    intro hfailed
    rcases play_renewal? he with ⟨summary, -, hrenews⟩ | hrests
    · exact absurd hrenews.answer (hfailed summary)
    · exact hrests

/-- Where renewals come at increasing times, those tracked before and after every turn are the
latest shoppers up to then, as many as there is room for, each with the summary of the last
renewal. -/
theorem Hub.play_keeps_latest {turns : List (HubTurn σ)} {earlier later : List (HubEntry σ)}
    {e : HubEntry σ} (hrun : play store settings (new settings) turns = earlier ++ e :: later)
    (hinc : (HubEntry.renewals (earlier ++ [e])).Pairwise (·.time < ·.time)) :
    KeepsLatest settings.room (HubEntry.renewals earlier) e.before.tracked ∧
      KeepsLatest settings.room (HubEntry.renewals (earlier ++ [e])) e.after.tracked ∧
      e.Spares := by
  have he : e ∈ play store settings (new settings) turns := by
    rw [hrun]
    simp
  rw [HubEntry.renewals_append, HubEntry.renewals_singleton] at hinc ⊢
  have hearlier := (List.pairwise_append.mp hinc).1
  have hbefore : KeepsLatest settings.room (HubEntry.renewals earlier) e.before.tracked := by
    have hstart : KeepsLatest settings.room [] (new settings).tracked :=
      keepsLatest_nil settings.room
    have hkeeps := keepsLatest_of_run hrun hstart hearlier
    rwa [List.nil_append] at hkeeps
  exact ⟨hbefore, hbefore.turn he hinc, play_spares he⟩

/-- Three shoppers where two are tracked: Bea was renewed longest ago when Cleo comes. -/
def Seed.crowdTurns : List (HubTurn Memory) :=
  [⟨.refresh "ana", ⟨0, 0⟩, shirts "ana" 5⟩, ⟨.refresh "bea", ⟨10, 1⟩, shirts "ana" 5⟩,
    ⟨.refresh "ana", ⟨20, 2⟩, shirts "ana" 6⟩, ⟨.current "bea", ⟨30, 3⟩, shirts "ana" 6⟩,
    ⟨.current "cleo", ⟨40, 4⟩, shirts "ana" 6⟩]

theorem Hub.play_keeps_latest_crowd :
    ∃ earlier e, play Memory.store { maxTracked := 2 } (new { maxTracked := 2 }) Seed.crowdTurns =
        earlier ++ [e] ∧
      (HubEntry.renewals (earlier ++ [e])).Pairwise (·.time < ·.time) ∧
      (shoppers (HubEntry.renewals (earlier ++ [e]))).card = 3 ∧
      KeepsLatest 2 (HubEntry.renewals (earlier ++ [e])) e.after.tracked ∧
      e.after.tracked.map (·.user) = ["ana", "cleo"] := by
  let run := play Memory.store { maxTracked := 2 } (new { maxTracked := 2 }) Seed.crowdTurns
  obtain ⟨e, hsplit, husers⟩ : ∃ e, run = run.take 4 ++ [e] ∧
      e.after.tracked.map (·.user) = ["ana", "cleo"] := ⟨_, rfl, rfl⟩
  have hinc : (HubEntry.renewals run).Pairwise (·.time < ·.time) := by
    have htimes : (HubEntry.renewals run).map (·.time) = [0, 10, 20, 40] := rfl
    have hpairs : ((HubEntry.renewals run).map (·.time)).Pairwise (· < ·) := by
      rw [htimes]
      decide
    exact List.pairwise_map.mp hpairs
  have hcard : (shoppers (HubEntry.renewals run)).card = 3 := by
    have husers : (HubEntry.renewals run).map (·.user) = ["ana", "bea", "ana", "cleo"] := rfl
    rw [shoppers, husers]
    decide
  rw [hsplit] at hinc hcard
  obtain ⟨-, hkeeps, -⟩ := Hub.play_keeps_latest hsplit hinc
  have hroom : HubSettings.room { maxTracked := 2 } = 2 := rfl
  rw [hroom] at hkeeps
  exact ⟨run.take 4, e, hsplit, hinc, hcard, hkeeps, husers⟩

end VolumePricing
