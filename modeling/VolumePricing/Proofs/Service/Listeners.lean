import VolumePricing.Proofs.Hub.Polling
import VolumePricing.Proofs.Service.Openings
import VolumePricing.Proofs.Service.GuestPrices
import VolumePricing.Proofs.Service.Separation
import VolumePricing.Proofs.Service.ServerErrors

/-!
# Those who listen

Shoppers open streams, requests have the hub send notices, and every stream asks
for its next message when it likes. Whatever the order, a stream hands on what
was sent to its shopper since it was opened, each notice once at most and in the
order of sending; and everything, as long as it never falls too far behind.

Besides the hub and the streams it is remembered what was ever sent and what was
handed on. A stream and the channel meet in places of that history: the stream
stands at one, and the channel keeps what comes after another.
-/

namespace VolumePricing

open Http (Request Response)

/-- What is sent when the hub changes: what someone hears who begins to listen just before. -/
def Hub.heard (before after : Hub) : List CartNotification :=
  (after.channel.receive before.channel.subscribe).1.messages

/-- A stream, the request that opened it, and what became of it. -/
structure Listener where
  stream : NoticeStream
  request : Request
  moment : Moment
  /-- How many notices had been sent when it was opened. -/
  since : Nat
  delivered : List Frame
  /-- The most notices that were ever sent and not yet read. -/
  backlog : Nat

/-- The hub, the notices it has ever sent, and those who listen to it. -/
structure Audience where
  hub : Hub
  sent : List CartNotification
  listeners : List Listener

/-- What can happen. The store may have become anything since the last time. -/
inductive Happening
  /-- A request is answered while some calls of the store fail. -/
  | request (tables : Memory) (outage : Outage) (r : Request) (moment : Moment)
  /-- A request that is answered at the same time as others comes to its summary. -/
  | refresh (user : String) (summary : CartSummary) (moment : Moment)
  /-- The stream in that place asks for its next message. -/
  | poll (place : Nat)

namespace Listener

/-- Takes down how far the stream is behind the hub. -/
def noted (hub : Hub) (l : Listener) : Listener :=
  { l with backlog := max l.backlog (l.stream.unread hub) }

def poll (hub : Hub) (l : Listener) : Listener :=
  let (frames, stream) := l.stream.poll hub
  { l with stream, delivered := l.delivered ++ frames }

/-- A stream opened now by an answer that gives one. -/
def opened? (hub : Hub) (since : Nat) (r : Request) (moment : Moment) (response : Response) :
    Option Listener :=
  match response.body with
  | .notices user => some ⟨.opened hub user, r, moment, since, [], 0⟩
  | _ => none

end Listener

namespace Audience

def empty (settings : HubSettings) : Audience := ⟨.new settings, [], []⟩

/-- The hub has changed, and what it sent in doing so is remembered. -/
def withHub (a : Audience) (hub : Hub) : Audience where
  hub := hub
  sent := a.sent ++ a.hub.heard hub
  listeners := a.listeners.map (·.noted hub)

/-- An answer has been given, and its stream is listened to if it opens one. -/
def answered (a : Audience) (r : Request) (moment : Moment) (response : Response) : Audience :=
  { a with listeners :=
      a.listeners ++ (Listener.opened? a.hub a.sent.length r moment response).toList }

/-- A request that overflows is not answered and has not come to the hub. -/
def step (settings : HubSettings) (authority : Authority) (a : Audience) : Happening → Audience
  | .request tables outage r moment =>
    match (Service.during settings authority outage).respond r moment ⟨tables, a.hub⟩ with
    | .error _ => a
    | .ok (response, shop) => (a.withHub shop.hub).answered r moment response
  | .refresh user summary moment => a.withHub (a.hub.observe settings user summary moment)
  | .poll place => { a with listeners := a.listeners.modify place (·.poll a.hub) }

def run (settings : HubSettings) (authority : Authority) (happenings : List Happening) : Audience :=
  happenings.foldl (step settings authority) (empty settings)

end Audience

/-! ### One listener and the history -/

namespace Listener

variable {l : Listener} {log later : List CartNotification} {hub : Hub}

/-- The frames of what the stream has come by since it was opened. -/
def passed (l : Listener) (log : List CartNotification) : List Frame :=
  Frame.allFor l.stream.user ((log.take l.stream.receiver.next).drop l.since)

/-- The stream stands at a place in the history, and has handed on of its shopper's notices what it
came by; all of them, if it was never further behind than there is room for. -/
structure Follows (l : Listener) (log : List CartNotification) (room : Nat) : Prop where
  since_le : l.since ≤ l.stream.receiver.next
  next_le : l.stream.receiver.next ≤ log.length
  behind_le : log.length - l.stream.receiver.next ≤ l.backlog
  sublist : l.delivered.Sublist (l.passed log)
  complete : l.backlog ≤ room → l.delivered = l.passed log

/-- A stream that is opened stands at the end of the history. -/
theorem follows_opened (hsent : hub.channel.sent = log.length) (room : Nat) (user : String)
    (r : Request) (moment : Moment) :
    Follows ⟨.opened hub user, r, moment, log.length, [], 0⟩ log room := by
  have hplace : (NoticeStream.opened hub user).receiver.next = log.length := hsent
  constructor
  · exact hplace.ge
  · exact hplace.le
  · exact (Nat.sub_eq_zero_of_le hplace.ge).le
  · exact List.nil_sublist _
  · intro _
    simp [passed, Frame.allFor, hplace]

theorem passed_append (h : l.stream.receiver.next ≤ log.length) (later : List CartNotification) :
    l.passed (log ++ later) = l.passed log := by
  unfold passed
  rw [List.take_append_of_le_length h]

/-- What is sent comes after the place where the stream stands. -/
theorem Follows.noted {room : Nat} (h : l.Follows log room)
    (hsent : hub.channel.sent = (log ++ later).length) :
    (l.noted hub).Follows (log ++ later) room := by
  have hpassed : (l.noted hub).passed (log ++ later) = l.passed log := passed_append h.next_le later
  constructor
  · exact h.since_le
  · have hlonger : log.length ≤ (log ++ later).length := by simp
    exact h.next_le.trans hlonger
  · rw [← hsent]
    exact le_max_right _ _
  · rw [hpassed]
    exact h.sublist
  · intro hbacklog
    rw [hpassed]
    exact h.complete ((le_max_left _ _).trans hbacklog)

/-- The stream has gone on to a place, and some frames were handed on. -/
def advanced (l : Listener) (frames : List Frame) (place : Nat) : Listener :=
  { l with stream := ⟨l.stream.user, ⟨place⟩⟩, delivered := l.delivered ++ frames }

theorem poll_eq_advanced {frames : List Frame} {place : Nat}
    (h : l.stream.poll hub = (frames, ⟨l.stream.user, ⟨place⟩⟩)) :
    l.poll hub = l.advanced frames place := by
  unfold Listener.poll
  rw [h]
  rfl

@[simp] theorem advanced_nil (l : Listener) : l.advanced [] l.stream.receiver.next = l := by
  simp [advanced]

theorem user_poll (hub : Hub) (l : Listener) : (l.poll hub).stream.user = l.stream.user := by
  change (l.stream.poll hub).2.user = l.stream.user
  unfold NoticeStream.poll
  split <;> rfl

/-- A stream that skips what is no longer kept had been further behind than there is room for. -/
theorem Follows.skip {room : Nat} (h : l.Follows log room)
    (hlag : l.stream.receiver.next < log.length - room) :
    (l.advanced [] (log.length - room)).Follows log room := by
  have hbehind := h.behind_le
  constructor
  · exact h.since_le.trans hlag.le
  · exact Nat.sub_le _ _
  · change log.length - (log.length - room) ≤ l.backlog
    omega
  · have hlonger : (l.passed log).Sublist ((l.advanced [] (log.length - room)).passed log) := by
      apply List.Sublist.map
      apply List.Sublist.filter
      apply List.Sublist.drop
      exact List.take_sublist_take_left hlag.le
    change (l.delivered ++ []).Sublist _
    rw [List.append_nil]
    exact h.sublist.trans hlonger
  · intro hbacklog
    change l.backlog ≤ room at hbacklog
    omega

/-- A stream that takes the next notice hands it on if it is for its shopper. -/
theorem Follows.take {room : Nat} {n : CartNotification} (h : l.Follows log room)
    (hn : log[l.stream.receiver.next]? = some n) :
    (l.advanced (Frame.allFor l.stream.user [n]) (l.stream.receiver.next + 1)).Follows log
      room := by
  obtain ⟨hlt, -⟩ := List.getElem?_eq_some_iff.mp hn
  have hbehind := h.behind_le
  have hpassed :
      (l.advanced (Frame.allFor l.stream.user [n]) (l.stream.receiver.next + 1)).passed log =
        l.passed log ++ Frame.allFor l.stream.user [n] := by
    have hsince : l.since ≤ (log.take l.stream.receiver.next).length := by
      rw [List.length_take, Nat.min_eq_left h.next_le]
      exact h.since_le
    change Frame.allFor l.stream.user ((log.take (l.stream.receiver.next + 1)).drop l.since) = _
    rw [List.take_add_one, hn, List.drop_append_of_le_length hsince, Frame.allFor_append]
    rfl
  constructor
  · exact h.since_le.trans (Nat.le_succ _)
  · exact hlt
  · change log.length - (l.stream.receiver.next + 1) ≤ l.backlog
    omega
  · rw [hpassed]
    exact h.sublist.append_right _
  · intro hbacklog
    rw [hpassed, ← h.complete hbacklog]
    rfl

/-- Asking once brings the stream further in the history, and it keeps to it. -/
theorem Follows.poll {n : Nat} (h : l.Follows log (powerAbove n))
    (hchannel : hub.channel = log.foldl Channel.send (.withCapacity n)) :
    (l.poll hub).Follows log (powerAbove n) := by
  by_cases hlag : l.stream.receiver.next < log.length - powerAbove n
  · have hdropped : hub.channel.dropped = log.length - powerAbove n := by
      rw [hchannel, Channel.foldl_send]
    have hpoll := NoticeStream.poll_of_lt (hdropped ▸ hlag)
    rw [hdropped] at hpoll
    rw [poll_eq_advanced hpoll]
    exact h.skip hlag
  · have hask := Channel.poll_foldl_send (not_lt.mp hlag)
    rw [← hchannel] at hask
    cases hn : log[l.stream.receiver.next]? with
    | none =>
      rw [hn] at hask
      rw [poll_eq_advanced (NoticeStream.poll_of_pending hask), advanced_nil]
      exact h
    | some notice =>
      rw [hn] at hask
      rw [poll_eq_advanced (NoticeStream.poll_of_message hask)]
      exact h.take hn

end Listener

/-! ### Everyone and the history -/

namespace Hub

variable {h h' : Hub} {settings : HubSettings}

/-- The hub has changed as a hub does: not at all, or by one summary that it took in. -/
def Goes (settings : HubSettings) (h h' : Hub) : Prop :=
  h' = h ∨ ∃ user summary moment, h' = h.observe settings user summary moment

/-- What is heard of a change is what was sent. -/
theorem Goes.channel_eq (hgoes : Goes settings h h') :
    h'.channel = (h.heard h').foldl Channel.send h.channel := by
  rcases hgoes with rfl | ⟨user, summary, moment, rfl⟩
  · rw [heard, Channel.receive_subscribe]
    rfl
  · rw [heard, receive_observe, observe_channel]

end Hub

namespace Audience

variable {settings : HubSettings} {authority : Authority} {a : Audience} {hub : Hub}

/-- The channel keeps to the history, and so does everyone who listens. Everyone who listens has
asked to. -/
structure Sound (settings : HubSettings) (authority : Authority) (a : Audience) : Prop where
  channel : a.hub.channel = a.sent.foldl Channel.send (.withCapacity settings.channelCapacity)
  follows : ∀ l ∈ a.listeners, l.Follows a.sent (powerAbove settings.channelCapacity)
  asked : ∀ l ∈ a.listeners,
    (Service.inMemory settings authority).AsksForNotices l.stream.user l.request l.moment

theorem sound_empty (settings : HubSettings) (authority : Authority) :
    (empty settings).Sound settings authority where
  channel := rfl
  follows _ hl := by cases hl
  asked _ hl := by cases hl

theorem Sound.sent_eq (h : a.Sound settings authority) : a.hub.channel.sent = a.sent.length := by
  rw [h.channel, Channel.sent_foldl_send]

/-- Whatever is sent, everyone goes on where they stand. -/
theorem Sound.withHub (h : a.Sound settings authority) (hgoes : a.hub.Goes settings hub) :
    (a.withHub hub).Sound settings authority := by
  have hchannel : hub.channel =
      (a.sent ++ a.hub.heard hub).foldl Channel.send (.withCapacity settings.channelCapacity) := by
    rw [hgoes.channel_eq, List.foldl_append, ← h.channel]
  have hsent : hub.channel.sent = (a.sent ++ a.hub.heard hub).length := by
    rw [hchannel, Channel.sent_foldl_send]
  constructor
  · exact hchannel
  · intro l hl
    obtain ⟨old, hold, rfl⟩ := List.mem_map.mp hl
    exact (h.follows old hold).noted hsent
  · intro l hl
    obtain ⟨old, hold, rfl⟩ := List.mem_map.mp hl
    exact h.asked old hold

/-- A stream is opened at the end of the history, for whoever asked for it. -/
theorem Sound.answered {r : Request} {moment : Moment} {response : Response}
    (h : a.Sound settings authority)
    (hasked : ∀ user, response.body = .notices user →
      (Service.inMemory settings authority).AsksForNotices user r moment) :
    (a.answered r moment response).Sound settings authority := by
  have hopened : ∀ l ∈ a.listeners ++
      (Listener.opened? a.hub a.sent.length r moment response).toList,
      l ∈ a.listeners ∨ ∃ user, response.body = .notices user ∧
        l = ⟨.opened a.hub user, r, moment, a.sent.length, [], 0⟩ := by
    intro l hl
    rcases List.mem_append.mp hl with hl | hl
    · exact Or.inl hl
    · right
      have hsome := Option.mem_toList.mp hl
      unfold Listener.opened? at hsome
      split at hsome
      · cases hsome
        exact ⟨_, ‹_›, rfl⟩
      · cases hsome
  constructor
  · exact h.channel
  · intro l hl
    rcases hopened l hl with hold | ⟨user, -, rfl⟩
    · exact h.follows l hold
    · exact Listener.follows_opened h.sent_eq _ user r moment
  · intro l hl
    rcases hopened l hl with hold | ⟨user, hbody, rfl⟩
    · exact h.asked l hold
    · exact hasked user hbody

/-- Asking for a message concerns one stream and leaves it where it should be. -/
theorem Sound.poll (h : a.Sound settings authority) (place : Nat) :
    Sound settings authority { a with listeners := a.listeners.modify place (·.poll a.hub) } := by
  have hone : ∀ l ∈ a.listeners.modify place (·.poll a.hub),
      l ∈ a.listeners ∨ ∃ old ∈ a.listeners, l = old.poll a.hub := by
    intro l hl
    obtain ⟨i, hi, rfl⟩ := List.getElem_of_mem hl
    rw [List.getElem_modify]
    split
    · exact Or.inr ⟨_, List.getElem_mem _, rfl⟩
    · exact Or.inl (List.getElem_mem _)
  constructor
  · exact h.channel
  · intro l hl
    rcases hone l hl with hsame | ⟨old, hold, rfl⟩
    · exact h.follows l hsame
    · exact (h.follows old hold).poll h.channel
  · intro l hl
    rcases hone l hl with hsame | ⟨old, hold, rfl⟩
    · exact h.asked l hsame
    · rw [Listener.user_poll]
      exact h.asked old hold

section Steps

variable {tables : Memory} {o : Outage} {r : Request} {moment : Moment}

theorem step_request_of_ok {response : Response} {shop : Shop Memory}
    (h : (Service.during settings authority o).respond r moment ⟨tables, a.hub⟩ =
      .ok (response, shop)) :
    a.step settings authority (.request tables o r moment) =
      (a.withHub shop.hub).answered r moment response := by
  simp only [step, h]

theorem step_request_of_error {e : Overflow}
    (h : (Service.during settings authority o).respond r moment ⟨tables, a.hub⟩ = .error e) :
    a.step settings authority (.request tables o r moment) = a := by
  simp only [step, h]

end Steps

/-- Whatever happens. -/
theorem Sound.step (h : a.Sound settings authority) (happening : Happening) :
    (a.step settings authority happening).Sound settings authority := by
  cases happening with
  | request tables outage r moment =>
    cases hrespond : (Service.during settings authority outage).respond r moment
        ⟨tables, a.hub⟩ with
    | error o =>
      rw [step_request_of_error hrespond]
      exact h
    | ok p =>
      obtain ⟨response, shop⟩ := p
      rw [step_request_of_ok hrespond]
      have hgoes : a.hub.Goes settings shop.hub := by
        rcases Service.hub_of_respond Service.during_careful hrespond with
          hsame | ⟨user, summary, hobserved⟩
        · exact Or.inl hsame
        · exact Or.inr ⟨user, summary, moment, hobserved⟩
      apply (h.withHub hgoes).answered
      intro user hbody
      obtain ⟨hpath, hmethod, htoken⟩ := Service.asksForNotices_of_respond hrespond hbody
      exact ⟨hpath, hmethod, htoken⟩
  | refresh user summary moment => exact h.withHub (Or.inr ⟨user, summary, moment, rfl⟩)
  | poll place => exact h.poll place

/-- However it came to this. -/
theorem sound_run (settings : HubSettings) (authority : Authority) (happenings : List Happening) :
    (run settings authority happenings).Sound settings authority := by
  have sound_foldl : ∀ a : Audience, a.Sound settings authority →
      (happenings.foldl (step settings authority) a).Sound settings authority := by
    induction happenings with
    | nil => exact fun a ha => ha
    | cons happening rest ih => exact fun a ha => ih _ (ha.step happening)
  exact sound_foldl _ (sound_empty settings authority)

/-- Whatever happens and in whatever order: everyone who listens has asked for the notices of the
shopper in their token. What is handed on to them is some of what was sent to that shopper since,
in the order of sending and no notice twice; and all of it, once everything is read, if there never
were more notices unread than the channel is to hold, or one if it is to hold none. -/
theorem run_delivers (settings : HubSettings) (authority : Authority)
    (happenings : List Happening) {l : Listener}
    (hl : l ∈ (run settings authority happenings).listeners) :
    let a := run settings authority happenings
    let due := Frame.allFor l.stream.user (a.sent.drop l.since)
    a.hub.channel = a.sent.foldl Channel.send (.withCapacity settings.channelCapacity) ∧
      (Service.inMemory settings authority).AsksForNotices l.stream.user l.request l.moment ∧
      l.delivered.Sublist due ∧
      (l.backlog ≤ max 1 settings.channelCapacity → l.stream.unread a.hub = 0 →
        l.delivered = due) := by
  intro a due
  have hsound : a.Sound settings authority := sound_run settings authority happenings
  have hfollows : l.Follows a.sent (powerAbove settings.channelCapacity) := hsound.follows l hl
  refine ⟨hsound.channel, hsound.asked l hl, ?_, ?_⟩
  · have hcome : (l.passed a.sent).Sublist due := by
      apply List.Sublist.map
      apply List.Sublist.filter
      apply List.Sublist.drop
      exact List.take_sublist _ _
    exact hfollows.sublist.trans hcome
  · intro hbacklog hunread
    have hroom : max 1 settings.channelCapacity ≤ powerAbove settings.channelCapacity :=
      max_le (Channel.powerAbove_pos _) (Channel.le_powerAbove _)
    have hend : a.sent.length ≤ l.stream.receiver.next := by
      apply Nat.sub_eq_zero_iff_le.mp
      rw [← hsound.sent_eq]
      exact hunread
    rw [hfollows.complete (hbacklog.trans hroom), Listener.passed, List.take_of_length_le hend]

end Audience

namespace Seed

/-- The shopper listens while the sixth shirt unlocks a tier, and then asks for a message. -/
def unlockHeard : List Happening :=
  [.request (shirts "ana" 5) .none look ⟨0, 0⟩, .request opened .none listen ⟨1, 0⟩,
   .request (shirts "ana" 6) .none look ⟨2, 7⟩, .poll 0]

theorem admitted?_look (store : Store Memory) (settings : HubSettings) (moment : Moment) :
    (Service.mk store settings .byName).admitted? look moment = some (.summary, "ana") := by
  cbv

end Seed

theorem Audience.run_delivers_unlock :
    ∃ l ∈ (run {} .byName Seed.unlockHeard).listeners, l.delivered.length = 1 ∧
      l.delivered =
        Frame.allFor "ana" ((run {} .byName Seed.unlockHeard).sent.drop l.since) := by
  have looked : ∀ moment shop,
      (Service.during {} .byName .none).respond Seed.look moment shop = _ :=
    fun moment => Service.respond_admitted (Seed.admitted?_look _ _ moment)
  have listened : ∀ moment shop,
      (Service.during {} .byName .none).respond Seed.listen moment shop = _ :=
    fun moment => Service.respond_admitted (Seed.admitted?_listen _ _ moment)
  obtain ⟨l, hl, hcount, huser, hbacklog, hunread⟩ :
      ∃ l ∈ (run {} .byName Seed.unlockHeard).listeners, l.delivered.length = 1 ∧
        l.stream.user = "ana" ∧ l.backlog ≤ 1 ∧
        l.stream.unread (run {} .byName Seed.unlockHeard).hub = 0 := by
    rw [run, Seed.unlockHeard, List.foldl_cons, List.foldl_cons, List.foldl_cons,
      step_request_of_ok ((looked _ _).trans rfl), step_request_of_ok ((listened _ _).trans rfl),
      step_request_of_ok ((looked _ _).trans rfl)]
    exact ⟨_, List.mem_cons_self, rfl, rfl, by decide, rfl⟩
  obtain ⟨-, -, -, hall⟩ := run_delivers {} .byName Seed.unlockHeard hl
  have hdue := hall (hbacklog.trans (le_max_left _ _)) hunread
  rw [huser] at hdue
  exact ⟨l, hl, hcount, hdue⟩

end VolumePricing
