import VolumePricing.Proofs.FirstMatch
import VolumePricing.Proofs.Hub.Listening
import VolumePricing.Proofs.Hub.Tracking

/-!
# Shoppers in any order

What a turn comes to depends on what the hub holds of its own shopper. As long as
there is room for everyone nobody is dropped, so a turn leaves alone what the
hub holds of the others. Hence each of several shoppers finds the hub as it was
at the beginning, whoever comes before, and their turns may be taken in any
order.
-/

namespace VolumePricing

variable {σ : Type} {store : Store σ} {settings : HubSettings} {user other : String}
  {h h₀ : Hub} {t : HubTurn σ} {turns turns' : List (HubTurn σ)} {summary : CartSummary}
  {moment : Moment}

namespace Hub

/-! ### One turn -/

/-- The summary that the hub takes in with a turn. -/
def received? (store : Store σ) (settings : HubSettings) (h : Hub) (t : HubTurn σ) :
    Option CartSummary :=
  match t.call, h.find? t.call.user with
  | .current _, some _ => none
  | _, _ => (Shop.summarize store settings t.call.user t.store).toOption.bind (·.1.toOption)

theorem take_answer (h : Hub) (t : HubTurn σ) : (h.take store settings t).answer =
    match t.call, h.find? t.call.user with
    | .current _, some held => .ok (.ok held.summary)
    | _, _ => (Shop.summarize store settings t.call.user t.store).map (·.1) := by
  obtain ⟨call, moment, s⟩ := t
  have hrefresh : ∀ user, (Shop.refresh store settings user moment ⟨s, h⟩).map (·.1) =
      (Shop.summarize store settings user s).map (·.1) := by
    intro user
    rw [Shop.run_refresh]
    cases Shop.summarize store settings user s <;> rfl
  cases call with
  | refresh user => exact hrefresh user
  | current user =>
    simp only [take, HubCall.on, HubCall.user, Shop.run_current]
    cases h.find? user with
    | some held => rfl
    | none => exact hrefresh user

theorem take_after (h : Hub) (t : HubTurn σ) : (h.take store settings t).after =
    (h.received? store settings t).elim h
      (h.observe settings t.call.user · t.moment) := by
  obtain ⟨call, moment, s⟩ := t
  have hrefresh : ∀ user, h.afterCall (Shop.refresh store settings user moment ⟨s, h⟩) =
      ((Shop.summarize store settings user s).toOption.bind (·.1.toOption)).elim h
        (h.observe settings user · moment) := by
    intro user
    rw [Shop.run_refresh]
    rcases Shop.summarize store settings user s with o | ⟨e | summary, s'⟩ <;> rfl
  cases call with
  | refresh user => exact hrefresh user
  | current user =>
    simp only [take, HubCall.on, HubCall.user, Shop.run_current, received?]
    cases h.find? user with
    | some held => rfl
    | none => exact hrefresh user

theorem take_heard (h : Hub) (t : HubTurn σ) :
    (h.take store settings t).heard = (h.received? store settings t).elim []
      fun summary => (h.announcement? settings t.call.user summary t.moment).toList := by
  rw [HubEntry.heard, take_after]
  cases h.received? store settings t with
  | none => exact Channel.receive_subscribe h.channel
  | some summary => exact receive_observe h settings t.call.user summary t.moment

theorem addressed_of_heard {n : CartNotification} (hn : n ∈ (h.take store settings t).heard) :
    n.userId = t.call.user := by
  rw [take_heard] at hn
  cases hreceived : h.received? store settings t with
  | none =>
    rw [hreceived] at hn
    cases hn
  | some summary =>
    rw [hreceived] at hn
    obtain ⟨_, _, -, -, rfl⟩ := announcement?_eq_some (Option.mem_toList.mp hn)
    rfl

end Hub

/-- The events of a run that are for one shopper. -/
def HubEntry.heardBy (user : String) (entries : List (HubEntry σ)) : List CartNotification :=
  (entries.flatMap (·.heard)).filter (·.userId = user)

namespace Hub

/-! ### Hubs that hold the same of a shopper -/

section Congr

variable (hheld : h.find? t.call.user = h₀.find? t.call.user)
include hheld

theorem received?_congr : h.received? store settings t = h₀.received? store settings t := by
  rw [received?, received?, hheld]

theorem answer_congr : (h.take store settings t).answer = (h₀.take store settings t).answer := by
  rw [take_answer, take_answer, hheld]

theorem heard_congr : (h.take store settings t).heard = (h₀.take store settings t).heard := by
  rw [take_heard, take_heard, received?_congr hheld]
  simp only [announcement?, hheld]

theorem held_congr : (h.take store settings t).after.find? t.call.user =
    (h₀.take store settings t).after.find? t.call.user := by
  rw [take_after, take_after, received?_congr hheld]
  cases h₀.received? store settings t with
  | none => exact hheld
  | some summary => simp only [Option.elim_some, find?_observe_self, hheld]

end Congr

/-! ### Room for everyone -/

/-- The tracked shoppers, and those of the turns who are not among them, can all be tracked. -/
def RoomFor (settings : HubSettings) (h : Hub) (turns : List (HubTurn σ)) : Prop :=
  h.tracked.length + turns.countP (fun t => (h.find? t.call.user).isNone) ≤ settings.room

instance : Decidable (RoomFor settings h turns) := inferInstanceAs (Decidable (_ ≤ _))

theorem find?_observe_of_room (hne : other ≠ user)
    (hroom : h.find? other = none → h.tracked.length < settings.room) :
    (h.observe settings other summary moment).find? user = h.find? user := by
  rcases find?_observe_of_ne h settings summary moment hne with hsame | ⟨-, hevicts⟩
  · exact hsame
  · exact absurd hevicts.full (Nat.not_le.mpr (hroom hevicts.untracked))

theorem length_observe (hroom : h.find? user = none → h.tracked.length < settings.room) :
    (h.observe settings user summary moment).tracked.length =
      h.tracked.length + if (h.find? user).isNone then 1 else 0 := by
  unfold observe
  cases hfind : h.find? user with
  | some held => simp
  | none => simp [makeRoom, Nat.not_le.mpr (hroom hfind)]

/-- A turn leaves room for the rest, and all but its own shopper as they were. -/
theorem RoomFor.take (store : Store σ) (hroom : RoomFor settings h (t :: turns))
    (hdistinct : ∀ s ∈ turns, s.call.user ≠ t.call.user) :
    RoomFor settings (h.take store settings t).after turns ∧
      ∀ user, t.call.user ≠ user →
        (h.take store settings t).after.find? user = h.find? user := by
  unfold RoomFor at hroom ⊢
  rw [List.countP_cons] at hroom
  rw [take_after]
  cases h.received? store settings t with
  | none =>
    refine ⟨?_, fun _ _ => rfl⟩
    rw [Option.elim_none]
    omega
  | some summary =>
    have hnew : h.find? t.call.user = none → h.tracked.length < settings.room := by
      intro hnone
      rw [hnone] at hroom
      simp only [Option.isNone_none, if_true] at hroom
      omega
    have hothers : ∀ user, t.call.user ≠ user →
        (h.observe settings t.call.user summary t.moment).find? user = h.find? user :=
      fun user hne => find?_observe_of_room hne hnew
    refine ⟨?_, hothers⟩
    have hcount : turns.countP (fun s =>
        ((h.observe settings t.call.user summary t.moment).find? s.call.user).isNone) =
        turns.countP fun s => (h.find? s.call.user).isNone := by
      apply List.countP_congr
      intro s hs
      rw [hothers s.call.user (hdistinct s hs).symm]
    simp only [Option.elim_some, length_observe hnew, hcount]
    omega

/-! ### All turns -/

theorem others_of_nodup (h : ((t :: turns).map (·.call.user)).Nodup) :
    (∀ s ∈ turns, s.call.user ≠ t.call.user) ∧ (turns.map (·.call.user)).Nodup := by
  obtain ⟨hnot, hrest⟩ := List.nodup_cons.mp h
  exact ⟨fun s hs heq => hnot (List.mem_map.mpr ⟨s, hs, heq⟩), hrest⟩

/-- The hub when all turns are taken. -/
def afterAll (store : Store σ) (settings : HubSettings) (h : Hub) (turns : List (HubTurn σ)) :
    Hub :=
  turns.foldl (fun h t => (h.take store settings t).after) h

section Run

variable (store) (hdistinct : (turns.map (·.call.user)).Nodup) (hroom : RoomFor settings h turns)
include hdistinct hroom

/-- Every turn is answered as it would have been at the beginning, and sends the same. -/
theorem play_eq_map_take :
    ((h.play store settings turns).map fun e => (e.toHubTurn, e.answer, e.heard)) =
      turns.map fun t =>
        (t, (h.take store settings t).answer, (h.take store settings t).heard) := by
  induction turns generalizing h with
  | nil => rfl
  | cons t turns ih =>
    obtain ⟨hothers, hrest⟩ := others_of_nodup hdistinct
    obtain ⟨hroom', hsame⟩ := hroom.take store hothers
    rw [play, List.map_cons, List.map_cons, ih hrest hroom']
    congr 1
    apply List.map_congr_left
    intro s hs
    have hheld := hsame s.call.user (hothers s hs).symm
    rw [answer_congr hheld, heard_congr hheld]

theorem play_answers :
    ((h.play store settings turns).map fun e => (e.toHubTurn, e.answer)) =
      turns.map fun t => (t, (h.take store settings t).answer) := by
  have hturns := congrArg (List.map fun p => (p.1, p.2.1))
    (play_eq_map_take store hdistinct hroom)
  simpa [Function.comp_def] using hturns

/-- A shopper hears of a run what was to be heard of the shopper's own turns. -/
theorem heardBy_play (user : String) :
    HubEntry.heardBy user (h.play store settings turns) =
      (turns.filter (·.call.user = user)).flatMap fun t => (h.take store settings t).heard := by
  have hheard : (h.play store settings turns).flatMap (·.heard) =
      turns.flatMap fun t => (h.take store settings t).heard := by
    have hturns := congrArg (List.flatMap fun p => p.2.2)
      (play_eq_map_take store hdistinct hroom)
    simpa [List.flatMap_map] using hturns
  rw [HubEntry.heardBy, hheard]
  clear hdistinct hroom hheard
  induction turns with
  | nil => rfl
  | cons t turns ih =>
    rw [List.flatMap_cons, List.filter_append, ih]
    by_cases ht : t.call.user = user
    · rw [List.filter_cons_of_pos (by simpa using ht), List.flatMap_cons, List.filter_eq_self.mpr]
      intro n hn
      simpa [ht] using addressed_of_heard hn
    · rw [List.filter_cons_of_neg (by simpa using ht), List.filter_eq_nil_iff.mpr, List.nil_append]
      intro n hn
      simpa [addressed_of_heard hn] using ht

/-- In the end the hub holds of each shopper what it would hold after that shopper's turn alone. -/
theorem find?_afterAll (user : String) : (h.afterAll store settings turns).find? user =
    (turns.find? (·.call.user = user)).elim (h.find? user)
      fun t => (h.take store settings t).after.find? user := by
  induction turns generalizing h with
  | nil => rfl
  | cons t turns ih =>
    obtain ⟨hothers, hrest⟩ := others_of_nodup hdistinct
    obtain ⟨hroom', hsame⟩ := hroom.take store hothers
    change ((h.take store settings t).after.afterAll store settings turns).find? user = _
    rw [ih hrest hroom']
    by_cases ht : t.call.user = user
    · have hnone : turns.find? (·.call.user = user) = none := by
        rw [List.find?_eq_none]
        intro s hs
        simpa [← ht] using hothers s hs
      rw [hnone, List.find?_cons_of_pos (by simpa using ht)]
      rfl
    · rw [List.find?_cons_of_neg (by simpa using ht), hsame user ht]
      cases hfind : turns.find? (·.call.user = user) with
      | none => rfl
      | some s =>
        have hs := List.mem_of_find?_eq_some hfind
        obtain rfl : s.call.user = user := by simpa using List.find?_some hfind
        exact held_congr (hsame s.call.user (hothers s hs).symm)

end Run

end Hub

/-- Where there is room for everyone, the turns of different shoppers may be taken in any order:
each turn is answered the same, the hub ends with the same of every shopper, and every shopper hears
the same events. -/
theorem Hub.play_in_any_order (store : Store σ) (hperm : turns'.Perm turns)
    (hdistinct : (turns.map (·.call.user)).Nodup) (hroom : RoomFor settings h turns) :
    ((h.play store settings turns').map fun e => (e.toHubTurn, e.answer)).Perm
        ((h.play store settings turns).map fun e => (e.toHubTurn, e.answer)) ∧
      (∀ user, (h.afterAll store settings turns').find? user =
        (h.afterAll store settings turns).find? user) ∧
      ∀ user, HubEntry.heardBy user (h.play store settings turns') =
        HubEntry.heardBy user (h.play store settings turns) := by
  have hdistinct' : (turns'.map (·.call.user)).Nodup :=
    (hperm.map (·.call.user)).nodup_iff.mpr hdistinct
  have hroom' : RoomFor settings h turns' := by
    unfold RoomFor
    rw [hperm.countP_eq]
    exact hroom
  have hown : ∀ user, turns'.filter (·.call.user = user) = turns.filter (·.call.user = user) :=
    fun user => filter_key_eq_of_perm user hperm hdistinct'
  refine ⟨?_, ?_, ?_⟩
  · rw [play_answers store hdistinct hroom, play_answers store hdistinct' hroom']
    exact hperm.map _
  · intro user
    rw [find?_afterAll store hdistinct hroom, find?_afterAll store hdistinct' hroom',
      ← List.head?_filter, hown, List.head?_filter]
  · intro user
    rw [heardBy_play store hdistinct hroom, heardBy_play store hdistinct' hroom', hown]

/-- Ana, who has one shirt more than before, and two who are new, one of them without a cart. -/
def Seed.partyTurns : List (HubTurn Memory) :=
  [⟨.refresh "ana", ⟨10, 1⟩, shirts "ana" 6⟩, ⟨.refresh "bea", ⟨20, 2⟩, shirts "bea" 12⟩,
    ⟨.refresh "dora", ⟨5, 4⟩, shirts "ana" 6⟩]

theorem Hub.play_in_any_order_party :
    let settings : HubSettings := { maxTracked := 3 }
    let h := ((new settings).take Memory.store settings
      ⟨.refresh "ana", ⟨0, 0⟩, Seed.shirts "ana" 5⟩).after
    RoomFor settings h Seed.partyTurns ∧ ∀ user,
      (h.afterAll Memory.store settings Seed.partyTurns.reverse).find? user =
        (h.afterAll Memory.store settings Seed.partyTurns).find? user ∧
      HubEntry.heardBy user (h.play Memory.store settings Seed.partyTurns.reverse) =
        HubEntry.heardBy user (h.play Memory.store settings Seed.partyTurns) := by
  intro settings h
  have hroom : RoomFor settings h Seed.partyTurns := by
    have htracked : h.tracked.length = 1 := rfl
    have hnew : Seed.partyTurns.countP (fun t => (h.find? t.call.user).isNone) = 2 := rfl
    rw [RoomFor, htracked, hnew]
    decide
  obtain ⟨-, hheld, hheard⟩ := play_in_any_order Memory.store
    (List.reverse_perm Seed.partyTurns) (by decide) hroom
  exact ⟨hroom, fun user => ⟨hheld user, hheard user⟩⟩

end VolumePricing
