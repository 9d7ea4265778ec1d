import VolumePricing.Proofs.Hub.Streams

/-!
# Polling a stream

A stream need not take all that is kept for it at once. It may ask for one
message at a time, while others are sent in between. A stream that has fallen
behind is told so once, and then goes on with the oldest message kept. As long
as nothing is sent, asking often enough is reading.

What a channel keeps is the end of all that was ever sent on it.
-/

namespace VolumePricing

/-- What one asks for of a channel: a message, the number of those missed, or nothing for now. -/
inductive Poll (α : Type)
  | message (message : α)
  | lagged (missed : Nat)
  | pending
  deriving DecidableEq, Repr

namespace Channel

variable {α : Type} {c : Channel α} {r : Receiver}

/-- Asks for the next message. -/
def poll (c : Channel α) (r : Receiver) : Poll α × Receiver :=
  if r.next < c.dropped then (.lagged (c.dropped - r.next), ⟨c.dropped⟩)
  else
    match c.kept[r.next - c.dropped]? with
    | some message => (.message message, ⟨r.next + 1⟩)
    | none => (.pending, r)

theorem poll_of_lt (h : r.next < c.dropped) :
    c.poll r = (.lagged (c.dropped - r.next), ⟨c.dropped⟩) := if_pos h

/-- A receiver that has not fallen behind reads on where it stands. -/
theorem poll_of_le (h : c.dropped ≤ r.next) :
    c.poll r =
      match c.kept[r.next - c.dropped]? with
      | some message => (.message message, ⟨r.next + 1⟩)
      | none => (.pending, r) := if_neg (not_lt.mpr h)

/-- What is kept of a history are its last messages, as many as there is room for. -/
theorem foldl_send (n : Nat) (log : List α) :
    log.foldl send (withCapacity n) =
      ⟨powerAbove n, log.drop (log.length - powerAbove n), log.length - powerAbove n⟩ := by
  have hroom := powerAbove_pos n
  induction log using List.reverseRecOn with
  | nil => simp [withCapacity]
  | append_singleton log message ih =>
    rw [List.foldl_append, ih]
    simp only [List.foldl_cons, List.foldl_nil, List.length_append, List.length_singleton, send,
      List.length_drop]
    by_cases hfull : powerAbove n ≤ log.length
    · -- The oldest message makes room for the new one.
      have hnext : log.length + 1 - powerAbove n = log.length - powerAbove n + 1 := by omega
      rw [if_neg (by omega), hnext, List.drop_drop, List.drop_append_of_le_length (by omega)]
    · have hnone : log.length - powerAbove n = 0 := by omega
      have hnext : log.length + 1 - powerAbove n = 0 := by omega
      rw [if_pos (by omega), hnext, hnone, List.drop_zero, List.drop_zero]

theorem sent_foldl_send (n : Nat) (log : List α) :
    (log.foldl send (withCapacity n)).sent = log.length := by
  rw [foldl_send]
  change log.length - powerAbove n + (log.drop (log.length - powerAbove n)).length = log.length
  rw [List.length_drop]
  omega

/-- A receiver that has not fallen behind gets the message of the history at its place. -/
theorem poll_foldl_send {n : Nat} {log : List α} (h : log.length - powerAbove n ≤ r.next) :
    (log.foldl send (withCapacity n)).poll r =
      match log[r.next]? with
      | some message => (.message message, ⟨r.next + 1⟩)
      | none => (.pending, r) := by
  have hplace : log.length - powerAbove n + (r.next - (log.length - powerAbove n)) = r.next := by
    omega
  rw [foldl_send, poll_of_le h]
  simp only [List.getElem?_drop, hplace]

end Channel

/-- The frames of the notices that are for the shopper. -/
def Frame.allFor (user : String) (log : List CartNotification) : List Frame :=
  (log.filter (·.userId = user)).map .of

@[simp] theorem Frame.allFor_append (user : String) (log later : List CartNotification) :
    Frame.allFor user (log ++ later) = Frame.allFor user log ++ Frame.allFor user later := by
  simp [allFor]

namespace NoticeStream

variable {stream : NoticeStream} {hub : Hub}

/-- Asks for the next message and hands it on, if it is for the shopper. -/
def poll (stream : NoticeStream) (hub : Hub) : List Frame × NoticeStream :=
  match hub.channel.poll stream.receiver with
  | (.message n, receiver) => (Frame.allFor stream.user [n], { stream with receiver })
  | (_, receiver) => ([], { stream with receiver })

/-- Asks so many times. -/
def polls (stream : NoticeStream) (hub : Hub) : Nat → List Frame × NoticeStream
  | 0 => ([], stream)
  | n + 1 =>
    let (frames, stream) := stream.poll hub
    let (rest, stream) := stream.polls hub n
    (frames ++ rest, stream)

/-- The number of messages sent that the stream has not come to. -/
def unread (stream : NoticeStream) (hub : Hub) : Nat := hub.channel.sent - stream.receiver.next

theorem read_eq (stream : NoticeStream) (hub : Hub) :
    stream.read hub =
      (Frame.allFor stream.user
          (hub.channel.kept.drop (stream.receiver.next - hub.channel.dropped)),
        ⟨stream.user, ⟨hub.channel.sent⟩⟩) := rfl

/-- A stream that has fallen behind only catches up. -/
theorem poll_of_lt (h : stream.receiver.next < hub.channel.dropped) :
    stream.poll hub = ([], ⟨stream.user, ⟨hub.channel.dropped⟩⟩) := by
  rw [poll, Channel.poll_of_lt h]

theorem poll_of_message {n : CartNotification} {receiver : Receiver}
    (h : hub.channel.poll stream.receiver = (.message n, receiver)) :
    stream.poll hub = (Frame.allFor stream.user [n], ⟨stream.user, receiver⟩) := by
  rw [poll, h]

theorem poll_of_pending (h : hub.channel.poll stream.receiver = (.pending, stream.receiver)) :
    stream.poll hub = ([], stream) := by
  rw [poll, h]

/-- A stream that asks once goes on reading what it would have read, and comes to one more message
at least, if there is one. -/
theorem read_poll (hplace : stream.receiver.next ≤ hub.channel.sent) :
    stream.read hub = ((stream.poll hub).1 ++ ((stream.poll hub).2.read hub).1,
        ((stream.poll hub).2.read hub).2) ∧
      (stream.poll hub).2.receiver.next ≤ hub.channel.sent ∧
      (stream.poll hub).2.unread hub ≤ stream.unread hub - 1 := by
  have hsent : hub.channel.sent = hub.channel.dropped + hub.channel.kept.length := rfl
  unfold unread
  by_cases hbehind : stream.receiver.next < hub.channel.dropped
  · rw [poll_of_lt hbehind]
    have hstart : stream.receiver.next - hub.channel.dropped =
        hub.channel.dropped - hub.channel.dropped := by omega
    refine ⟨?_, ?_, ?_⟩
    · simp only [read_eq, hstart, List.nil_append]
    · dsimp only
      omega
    · dsimp only
      omega
  · have hahead := Channel.poll_of_le (not_lt.mp hbehind)
    cases hget : hub.channel.kept[stream.receiver.next - hub.channel.dropped]? with
    | none =>
      have hend := List.getElem?_eq_none_iff.mp hget
      rw [hget] at hahead
      rw [poll_of_pending hahead]
      refine ⟨rfl, hplace, ?_⟩
      dsimp only
      omega
    | some n =>
      obtain ⟨hlt, hn⟩ := List.getElem?_eq_some_iff.mp hget
      rw [hget] at hahead
      rw [poll_of_message hahead]
      have hnext : stream.receiver.next + 1 - hub.channel.dropped =
          stream.receiver.next - hub.channel.dropped + 1 := by omega
      refine ⟨?_, ?_, ?_⟩
      · simp only [read_eq, hnext, List.drop_eq_getElem_cons hlt, hn, ← Frame.allFor_append,
          List.singleton_append]
      · dsimp only
        omega
      · dsimp only
        omega

/-- Reading is asking until nothing is left. -/
theorem polls_eq_read {n : Nat} (hplace : stream.receiver.next ≤ hub.channel.sent)
    (hn : stream.unread hub ≤ n) : stream.polls hub n = stream.read hub := by
  induction n generalizing stream with
  | zero =>
    -- Nothing is left, and a stream that reads stays where it is.
    have hnext : stream.receiver.next = hub.channel.sent :=
      le_antisymm hplace (Nat.sub_eq_zero_iff_le.mp (Nat.le_zero.mp hn))
    have hnothing : hub.channel.kept.drop (stream.receiver.next - hub.channel.dropped) = [] := by
      apply List.drop_eq_nil_of_le
      rw [hnext, Channel.sent]
      omega
    rw [read_eq, hnothing, ← hnext]
    rfl
  | succ n ih =>
    obtain ⟨hread, hplace', hfewer⟩ := read_poll hplace
    have hrest : (stream.poll hub).2.polls hub n = (stream.poll hub).2.read hub := by
      apply ih hplace'
      omega
    rw [hread, ← hrest]
    rfl

end NoticeStream

end VolumePricing
