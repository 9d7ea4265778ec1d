import VolumePricing.Proofs.Hub.OneAtATime
import VolumePricing.Proofs.Hub.Renewals

/-!
# Summaries in the order of the reads

Between the reading of a cart and the storing of its summary no other refresh of
the shopper reads or stores. So the summaries of a shopper are stored in the
order in which the carts were read, and what a summary is compared with is the
one that was stored just before it, if the hub still has it.
-/

namespace VolumePricing

/-! ### What is remembered of a run -/

/-- A cart that was read for a shopper, or a summary that was stored. -/
inductive GateEvent
  | read (visit : ℕ) (user : String) (cart : Option Cart)
  | stored (visit : ℕ) (user : String) (summary : CartSummary) (moment : Moment)
  deriving DecidableEq, Repr

namespace GateEvent

def visit : GateEvent → ℕ
  | .read visit _ _ => visit
  | .stored visit _ _ _ => visit

def user : GateEvent → String
  | .read _ user _ => user
  | .stored _ user _ _ => user

def isRead : GateEvent → Bool
  | .read .. => true
  | .stored .. => false

/-- What the hub takes in. -/
def renewal? : GateEvent → Option Renewal
  | .read .. => none
  | .stored _ user summary moment => some ⟨user, summary, moment.now⟩

end GateEvent

namespace GateLog

def eventsOf (log : List GateEvent) (user : String) : List GateEvent := log.filter (·.user == user)

/-- The refreshes that read a cart, in the order of the reads. -/
def readers (log : List GateEvent) : List ℕ := (log.filter (·.isRead)).map (·.visit)

/-- The refreshes that stored a summary, in that order. -/
def storers (log : List GateEvent) : List ℕ := (log.filter (!·.isRead)).map (·.visit)

def renewals (log : List GateEvent) : List Renewal := log.filterMap (·.renewal?)

/-- A new hub that takes in the summaries one after another. -/
def replay (settings : HubSettings) (log : List GateEvent) : Hub :=
  log.foldl (fun h e => match e with
    | .read .. => h
    | .stored _ user summary moment => h.observe settings user summary moment) (.new settings)

end GateLog

namespace Gatehouse

/-- What is remembered of a step. -/
def event? (g : Gatehouse) : GateStep → Option GateEvent
  | .load n (.ok cart) => (g.visit? n).map fun v => .read v.number v.user cart
  | .store n moment => (g.visit? n).bind fun v =>
    match v.progress with
    | .priced summary => some (.stored v.number v.user summary moment)
    | _ => none
  | _ => none

/-- What is remembered of a run, as far as its steps are possible. -/
def log (settings : HubSettings) : Gatehouse → List GateStep → List GateEvent
  | _, [] => []
  | g, step :: steps =>
    (g.event? step).toList ++ (g.step? settings step).elim [] (log settings · steps)

end Gatehouse

open GateLog

/-! ### Logs -/

namespace GateLog

variable {settings : HubSettings} {user : String} {log front : List GateEvent} {e : GateEvent}

theorem eventsOf_append_of_ne (h : e.user ≠ user) :
    eventsOf (log ++ [e]) user = eventsOf log user := by
  simp [eventsOf, h]

theorem eventsOf_append_self (h : e.user = user) :
    eventsOf (log ++ [e]) user = eventsOf log user ++ [e] := by
  simp [eventsOf, h]

theorem readers_append (log : List GateEvent) (e : GateEvent) :
    readers (log ++ [e]) = readers log ++ if e.isRead then [e.visit] else [] := by
  unfold readers
  rw [List.filter_append, List.map_append, List.filter_singleton]
  cases e.isRead <;> rfl

theorem storers_append (log : List GateEvent) (e : GateEvent) :
    storers (log ++ [e]) = storers log ++ if e.isRead then [] else [e.visit] := by
  unfold storers
  rw [List.filter_append, List.map_append, List.filter_singleton]
  cases e.isRead <;> rfl

theorem mem_readers_append {n : ℕ} (h : n ∈ readers (log ++ [e])) :
    n ∈ readers log ∨ n = e.visit := by
  rw [readers_append, List.mem_append] at h
  refine h.imp_right fun hn => ?_
  split at hn
  · exact List.mem_singleton.mp hn
  · cases hn

/-- The hub that takes in the summaries has the last of them, of as many shoppers as it can. -/
theorem keeps_replay (settings : HubSettings) (log : List GateEvent) :
    Hub.Keeps settings.room (renewals log) (replay settings log).tracked := by
  induction log using List.reverseRecOn with
  | nil => exact Hub.keeps_nil settings.room
  | append_singleton log e ih =>
    unfold renewals replay at ih ⊢
    rw [List.filterMap_append, List.foldl_append]
    cases e with
    | read visit user cart => simpa [GateEvent.renewal?] using ih
    | stored visit user summary moment => exact ih.observe user summary moment

/-- The last thing that was read or stored for the shopper is the cart that the summary is made
of, which the same refresh read. -/
def JustRead (settings : HubSettings) (log : List GateEvent) (visit : ℕ) (user : String)
    (summary : CartSummary) : Prop :=
  ∃ cart tiers, (eventsOf log user).getLast? = some (.read visit user cart) ∧
    summarizeCart settings.fallback cart tiers = .ok summary

/-- Every summary was stored when its cart had just been read. -/
def Paired (settings : HubSettings) (log : List GateEvent) : Prop :=
  ∀ earlier visit user summary moment later,
    log = earlier ++ .stored visit user summary moment :: later →
    JustRead settings earlier visit user summary

theorem paired_nil : Paired settings [] := by
  intro earlier visit user summary moment later h
  simp at h

theorem Paired.of_append (h : Paired settings (log ++ [e])) : Paired settings log := by
  intro earlier visit user summary moment later hlog
  refine h earlier visit user summary moment (later ++ [e]) ?_
  rw [hlog, List.append_assoc, List.cons_append]

theorem Paired.append (h : Paired settings log)
    (he : ∀ visit user summary moment, e = .stored visit user summary moment →
      JustRead settings log visit user summary) :
    Paired settings (log ++ [e]) := by
  intro earlier visit user summary moment later hlog
  rcases List.eq_nil_or_concat later with rfl | ⟨later, last, rfl⟩
  · obtain ⟨rfl, hlast⟩ := List.append_inj' hlog rfl
    exact he visit user summary moment (List.head_eq_of_cons_eq hlast)
  · rw [List.concat_eq_append, ← List.cons_append, ← List.append_assoc] at hlog
    exact h earlier visit user summary moment later (List.append_inj' hlog rfl).1

/-- The summaries of a shopper are stored in the order in which the carts were read. -/
theorem Paired.sublist (h : Paired settings log) (user : String) :
    (storers (eventsOf log user)).Sublist (readers (eventsOf log user)) ∧
      ∀ front visit cart, eventsOf log user = front ++ [.read visit user cart] →
        (storers front).Sublist (readers front) := by
  -- A store that comes next needs the order as it was before its own read.
  induction log using List.reverseRecOn with
  | nil => exact ⟨List.Sublist.slnil, by simp [eventsOf]⟩
  | append_singleton log e ih =>
    obtain ⟨hall, hfront⟩ := ih h.of_append
    by_cases he : e.user = user
    · rw [eventsOf_append_self he, readers_append, storers_append]
      cases e with
      | read visit owner cart =>
        constructor
        · change (storers _ ++ []).Sublist (readers _ ++ [visit])
          rw [List.append_nil]
          exact hall.trans (List.sublist_append_left _ _)
        · intro front visit' cart' hsplit
          rw [← (List.append_inj' hsplit rfl).1]
          exact hall
      | stored visit owner summary moment =>
        have howner : owner = user := he
        subst howner
        obtain ⟨cart, tiers, hlast, -⟩ := h log visit owner summary moment [] rfl
        obtain ⟨front, hsplit⟩ := List.getLast?_eq_some_iff.mp hlast
        constructor
        · change (storers (eventsOf log owner) ++ [visit]).Sublist
            (readers (eventsOf log owner) ++ [])
          rw [hsplit, readers_append, storers_append]
          simpa [GateEvent.isRead, GateEvent.visit] using hfront front visit cart hsplit
        · intro front' visit' cart' hsplit'
          have hlast := (List.append_inj' hsplit' rfl).2
          simp at hlast
    · rw [eventsOf_append_of_ne he]
      exact ⟨hall, hfront⟩

end GateLog

/-! ### Steps -/

variable {settings : HubSettings} {log : List GateEvent} {g g' : Gatehouse}
  {steps : List GateStep} {v w : Visit}

/-- What is remembered of a refresh that is under way. -/
def Visit.Recorded (settings : HubSettings) (log : List GateEvent) (v : Visit) : Prop :=
  match v.progress with
  | .waiting | .entered => v.number ∉ readers log
  | .loaded cart => (eventsOf log v.user).getLast? = some (.read v.number v.user cart)
  | .priced summary => JustRead settings log v.number v.user summary
  | .done | .leaving | .left => True

/-- What is remembered of a refresh stays so while others read and store, for other shoppers if it
is inside its gate. -/
theorem Visit.Recorded.append {e : GateEvent} (h : v.Recorded settings log)
    (hvisit : e.visit ≠ v.number) (huser : v.progress.isInside = true → e.user ≠ v.user) :
    v.Recorded settings (log ++ [e]) := by
  have hunread : v.number ∉ readers log → v.number ∉ readers (log ++ [e]) := by
    intro hold hnew
    rcases mem_readers_append hnew with hmem | hsame
    · exact hold hmem
    · exact hvisit hsame.symm
  unfold Recorded at h ⊢
  cases hp : v.progress with
  | waiting =>
    rw [hp] at h
    exact hunread h
  | entered =>
    rw [hp] at h
    exact hunread h
  | loaded cart =>
    rw [hp] at h huser
    dsimp only at h ⊢
    rwa [eventsOf_append_of_ne (huser rfl)]
  | priced summary =>
    rw [hp] at h huser
    dsimp only [JustRead] at h ⊢
    rwa [eventsOf_append_of_ne (huser rfl)]
  | done => trivial
  | leaving => trivial
  | left => trivial

namespace Gatehouse

/-- A gatehouse with all that its refreshes read and stored. -/
structure InOrder (settings : HubSettings) (log : List GateEvent) (g : Gatehouse) : Prop where
  sound : g.Sound
  hub : g.hub = replay settings log
  readers_nodup : (readers log).Nodup
  readers_lt : ∀ n ∈ readers log, n < g.visitsMade
  recorded : ∀ v ∈ g.visits, v.Recorded settings log
  paired : Paired settings log

theorem inOrder_new (settings : HubSettings) : InOrder settings [] { hub := .new settings } where
  sound := sound_of_hub _
  hub := rfl
  readers_nodup := List.nodup_nil
  readers_lt := by simp [readers]
  recorded := by simp
  paired := paired_nil

/-- A step that reads and stores nothing. -/
theorem InOrder.quiet (h : InOrder settings log g) (hsound : g'.Sound) (hhub : g'.hub = g.hub)
    (hmade : g.visitsMade ≤ g'.visitsMade)
    (hvisits : ∀ w ∈ g'.visits, w ∈ g.visits ∨ w.Recorded settings log) :
    InOrder settings log g' where
  sound := hsound
  hub := hhub.trans h.hub
  readers_nodup := h.readers_nodup
  readers_lt := fun n hn => (h.readers_lt n hn).trans_le hmade
  recorded := by
    intro w hw
    rcases hvisits w hw with hw | hrecorded
    · exact h.recorded w hw
    · exact hrecorded
  paired := h.paired

theorem InOrder.moveTo {progress : Progress} (h : InOrder settings log g) (hv : v ∈ g.visits)
    (hsound : (g.moveTo v.number progress).Sound)
    (hrecorded : Visit.Recorded settings log { v with progress }) :
    InOrder settings log (g.moveTo v.number progress) := by
  refine h.quiet hsound rfl le_rfl ?_
  intro w hw
  rcases mem_moveTo h.sound hv hw with rfl | ⟨hw, -⟩
  · exact Or.inr hrecorded
  · exact Or.inl hw

/-- A step of a refresh inside its gate, which reads or stores something. -/
theorem InOrder.append {progress : Progress} {e : GateEvent} {hub : Hub}
    (h : InOrder settings log g) (hv : v ∈ g.visits) (hin : v.progress.isInside = true)
    (hsound : (g.moveTo v.number progress).Sound) (hvisit : e.visit = v.number)
    (huser : e.user = v.user) (hhub : hub = replay settings (log ++ [e]))
    (hreaders : (readers (log ++ [e])).Nodup)
    (hrecorded : Visit.Recorded settings (log ++ [e]) { v with progress })
    (hpaired : Paired settings (log ++ [e])) :
    InOrder settings (log ++ [e]) { g.moveTo v.number progress with hub } where
  sound := hsound.withHub hub
  hub := hhub
  readers_nodup := hreaders
  readers_lt := by
    intro n hn
    rcases mem_readers_append hn with hn | rfl
    · exact h.readers_lt n hn
    · rw [hvisit]
      exact h.sound.numbers_lt v hv
  recorded := by
    intro w hw
    rcases mem_moveTo h.sound hv hw with rfl | ⟨hw, hne⟩
    · exact hrecorded
    · refine (h.recorded w hw).append (by rw [hvisit]; exact hne.symm) ?_
      intro hwin hsame
      exact hne (h.sound.alone_of_user hw hv (hsame.symm.trans huser) hwin hin)
  paired := hpaired

/-- A cart is read. -/
theorem InOrder.load {cart : Option Cart} (h : InOrder settings log g) (hv : v ∈ g.visits)
    (hp : v.progress = .entered) (hsound : (g.moveTo v.number (.loaded cart)).Sound) :
    InOrder settings (log ++ [.read v.number v.user cart])
      (g.moveTo v.number (.loaded cart)) := by
  have hunread : v.number ∉ readers log := by
    have hrecorded := h.recorded v hv
    rwa [Visit.Recorded, hp] at hrecorded
  have hhub : g.hub = replay settings (log ++ [.read v.number v.user cart]) := by
    rw [h.hub, replay, replay, List.foldl_append]
    rfl
  refine h.append hv (by rw [hp]; rfl) hsound rfl rfl hhub ?_ ?_ ?_
  · rw [readers_append]
    refine h.readers_nodup.append (List.nodup_singleton _) ?_
    intro n hn hn'
    rw [List.mem_singleton.mp hn'] at hn
    exact hunread hn
  · change (eventsOf (log ++ [.read v.number v.user cart]) v.user).getLast? = _
    have hown : GateEvent.user (.read v.number v.user cart) = v.user := rfl
    rw [eventsOf_append_self hown, List.getLast?_concat]
  · refine h.paired.append ?_
    intro visit user summary moment heq
    cases heq

/-- A summary is stored. -/
theorem InOrder.store {summary : CartSummary} {moment : Moment} (h : InOrder settings log g)
    (hv : v ∈ g.visits) (hp : v.progress = .priced summary)
    (hsound : (g.moveTo v.number .done).Sound) :
    InOrder settings (log ++ [.stored v.number v.user summary moment])
      { g.moveTo v.number .done with hub := g.hub.observe settings v.user summary moment } := by
  have hread : JustRead settings log v.number v.user summary := by
    have hrecorded := h.recorded v hv
    rwa [Visit.Recorded, hp] at hrecorded
  refine h.append hv (by rw [hp]; rfl) hsound rfl rfl ?_ ?_ trivial ?_
  · rw [h.hub, replay, replay, List.foldl_append]
    rfl
  · rw [readers_append]
    simpa [GateEvent.isRead] using h.readers_nodup
  · refine h.paired.append ?_
    intro visit user summary' moment' heq
    cases heq
    exact hread

theorem InOrder.step {step : GateStep} (h : InOrder settings log g)
    (hstep : g.step? settings step = some g') :
    InOrder settings (log ++ (g.event? step).toList) g' := by
  have hmakes := makes_of_step? hstep
  have hsound := h.sound.makes hmakes
  have hsilent : g.event? step = none → InOrder settings log g' →
      InOrder settings (log ++ (g.event? step).toList) g' := by
    intro hnone hlog
    rwa [hnone, Option.toList_none, List.append_nil]
  cases hmakes with
  | arrive user =>
    obtain ⟨gate, -, -, hvisits, hmade, hhub⟩ := arrive_spec g user
    refine hsilent rfl (h.quiet hsound hhub (hmade ▸ Nat.le_succ _) ?_)
    intro w hw
    rw [hvisits] at hw
    rcases List.mem_append.mp hw with hw | hw
    · exact Or.inl hw
    · right
      rw [List.mem_singleton.mp hw]
      exact fun hread => Nat.lt_irrefl _ (h.readers_lt _ hread)
  | enter hv hp =>
    refine hsilent rfl (h.moveTo hv hsound ?_)
    have hrecorded := h.recorded _ hv
    rwa [Visit.Recorded, hp] at hrecorded
  | load hv hp =>
    rw [event?, h.sound.visit?_number hv]
    exact h.load hv hp hsound
  | miss hv hp => exact hsilent rfl (h.moveTo hv hsound trivial)
  | price hv hp hsummary =>
    refine hsilent rfl (h.moveTo hv hsound ?_)
    have hrecorded := h.recorded _ hv
    rw [Visit.Recorded, hp] at hrecorded
    exact ⟨_, _, hrecorded, hsummary⟩
  | overflow hv hp => exact hsilent rfl (h.moveTo hv hsound trivial)
  | store hv hp =>
    rw [event?, h.sound.visit?_number hv, Option.bind_some, hp]
    exact h.store hv hp (hsound.withHub g.hub)
  | leave hv hp => exact hsilent rfl (h.moveTo hv hsound trivial)
  | keep hv hp => exact hsilent rfl (h.moveTo hv hsound trivial)
  | tidy hv hp =>
    refine hsilent rfl (h.quiet hsound rfl le_rfl ?_)
    intro w hw
    rcases mem_moveTo h.sound hv hw with rfl | ⟨hw, -⟩
    · exact Or.inr trivial
    · exact Or.inl hw
  | depart hv hp =>
    refine hsilent rfl (h.quiet hsound rfl le_rfl ?_)
    exact fun w hw => Or.inl (List.mem_filter.mp hw).1
  | giveUp hv hp => exact hsilent rfl (h.moveTo hv hsound trivial)

theorem InOrder.run {past : List GateEvent} (h : InOrder settings past g)
    (hrun : g.run? settings steps = some g') :
    InOrder settings (past ++ g.log settings steps) g' := by
  induction steps generalizing g past with
  | nil =>
    cases hrun
    rw [Gatehouse.log, List.append_nil]
    exact h
  | cons step steps ih =>
    unfold run? at hrun
    rw [List.foldlM_cons] at hrun
    obtain ⟨g₁, hstep, hrest⟩ := Option.bind_eq_some_iff.mp hrun
    rw [Gatehouse.log, hstep, Option.elim_some, ← List.append_assoc]
    exact ih (h.step hstep) hrest

/-- A summary that comes to the hub in its turn: the last thing done for the shopper was to read
the cart that it was made of, and what the hub has for the shopper is the summary that was stored
before. The hub has none only if there was none, or if it had to drop shoppers. -/
structure InTurn (settings : HubSettings) (events : List GateEvent) (hub : Hub) (visit : ℕ)
    (user : String) (summary : CartSummary) : Prop where
  own_read : JustRead settings events visit user summary
  compared : ∀ t, hub.find? user = some t →
    Renewal.last? (renewals events) user = some ⟨user, t.summary, t.refreshedAt⟩
  dropped : hub.find? user = none → Renewal.last? (renewals events) user = none ∨
    settings.room < (Renewal.shoppers (renewals events)).card

theorem InOrder.inTurn {n : ℕ} {moment : Moment} (h : InOrder settings log g)
    (hstep : g.step? settings (.store n moment) = some g') :
    ∃ v ∈ g.visits, ∃ summary, v.number = n ∧
      g'.hub = g.hub.observe settings v.user summary moment ∧
      InTurn settings log g.hub n v.user summary := by
  cases makes_of_step? hstep with
  | @store v summary _ hv hp =>
    have hkeeps : Hub.Keeps settings.room (renewals log) g.hub.tracked := by
      rw [h.hub]
      exact keeps_replay settings log
    refine ⟨v, hv, summary, rfl, rfl, ?_, ?_, ?_⟩
    · have hrecorded := h.recorded v hv
      rwa [Visit.Recorded, hp] at hrecorded
    · exact fun t hfind => hkeeps.last_of_find? hfind
    · exact hkeeps.crowded_of_find?

/-- One refresh of a shopper at a time is inside its gate. The hub has taken in the summaries in
the order in which the carts were read, and takes in the next one in its turn. -/
structure Orderly (settings : HubSettings) (events : List GateEvent) (g : Gatehouse) : Prop where
  one_inside : ∀ user, g.visits.countP (fun v => v.user == user && v.progress.isInside) ≤ 1
  hub : g.hub = replay settings events
  read_once : (readers events).Nodup
  read_order : ∀ user, (storers (eventsOf events user)).Sublist (readers (eventsOf events user))
  next : ∀ n moment g', g.step? settings (.store n moment) = some g' →
    ∃ v ∈ g.visits, ∃ summary, v.number = n ∧
      g'.hub = g.hub.observe settings v.user summary moment ∧
      InTurn settings events g.hub n v.user summary

/-- It is so however the steps of all refreshes interleave, and wherever some are given up. -/
theorem run_orderly (hrun : run? settings { hub := .new settings } steps = some g) :
    Orderly settings (Gatehouse.log settings { hub := .new settings } steps) g := by
  have hinorder := (inOrder_new settings).run hrun
  rw [List.nil_append] at hinorder
  refine ⟨hinorder.sound.inside_le_one, hinorder.hub, hinorder.readers_nodup, ?_, ?_⟩
  · exact fun user => (hinorder.paired.sublist user).1
  · exact fun n moment g' hstep => hinorder.inTurn hstep

/-- Two refreshes for Ana and one for Bea. The first one for Ana is given up with the cart in hand
while the second one waits, which then reads and stores; Bea's stores in between. -/
def gateSteps : List GateStep :=
  [.arrive "ana", .arrive "ana", .enter 0, .arrive "bea", .load 0 (.ok none), .enter 2,
    .load 2 (.ok none), .giveUp 0, .enter 1, .depart 0, .load 1 (.ok none), .price 2 [],
    .price 1 [], .store 1 ⟨20, 1⟩, .store 2 ⟨10, 2⟩, .leave 1, .arrive "ana", .enter 3, .tidy 1,
    .load 3 (.ok none), .price 3 []]

theorem run_orderly_gateSteps :
    ∃ g, run? {} { hub := .new {} } gateSteps = some g ∧
      Orderly {} (Gatehouse.log {} { hub := .new {} } gateSteps) g ∧
      readers (eventsOf (Gatehouse.log {} { hub := .new {} } gateSteps) "ana") = [0, 1, 3] ∧
      storers (eventsOf (Gatehouse.log {} { hub := .new {} } gateSteps) "ana") = [1] := by
  have hpossible : (run? {} { hub := .new {} } gateSteps).isSome = true := by decide +kernel
  obtain ⟨g, hrun⟩ := Option.isSome_iff_exists.mp hpossible
  have horders :
      readers (eventsOf (Gatehouse.log {} { hub := .new {} } gateSteps) "ana") = [0, 1, 3] ∧
        storers (eventsOf (Gatehouse.log {} { hub := .new {} } gateSteps) "ana") = [1] := by
    decide +kernel
  exact ⟨g, hrun, run_orderly hrun, horders⟩

end Gatehouse

end VolumePricing
