/-!
# Channels that forget

A channel keeps the last messages sent, up to its capacity. A receiver reads
from its place in the channel on; when the messages at its place are already
gone it is told how many it missed and goes on with the oldest one kept.
-/

namespace VolumePricing

structure Channel (α : Type) where
  capacity : Nat
  kept : List α
  /-- How many messages were sent before the oldest one kept. -/
  dropped : Nat
  deriving Repr

/-- A place in a channel, counted in messages sent. -/
structure Receiver where
  next : Nat
  deriving DecidableEq, Repr

/-- What a receiver finds: the number of messages missed, and those kept for it. -/
structure Delivery (α : Type) where
  missed : Nat
  messages : List α
  deriving Repr

/-- The smallest power of two that is not below `n`. -/
def powerAbove (n : Nat) : Nat := if n ≤ 1 then 1 else Nat.pow 2 ((n - 1).log2 + 1)

namespace Channel

variable {α : Type}

/-- An empty channel for at least `n` messages, and for one at least. -/
def withCapacity (n : Nat) : Channel α := ⟨powerAbove n, [], 0⟩

/-- The number of messages ever sent. -/
def sent (c : Channel α) : Nat := c.dropped + c.kept.length

def send (c : Channel α) (message : α) : Channel α :=
  if c.kept.length < c.capacity then { c with kept := c.kept ++ [message] }
  else { c with kept := c.kept.drop 1 ++ [message], dropped := c.dropped + 1 }

/-- A receiver of the messages sent from now on. -/
def subscribe (c : Channel α) : Receiver := ⟨c.sent⟩

def receive (c : Channel α) (r : Receiver) : Delivery α × Receiver :=
  (⟨c.dropped - r.next, c.kept.drop (r.next - c.dropped)⟩, ⟨c.sent⟩)

theorem powerAbove_pos (n : Nat) : 0 < powerAbove n := by
  unfold powerAbove
  split
  · exact Nat.one_pos
  · exact Nat.two_pow_pos _

theorem le_powerAbove (n : Nat) : n ≤ powerAbove n := by
  unfold powerAbove
  split
  · assumption
  · have : n - 1 < Nat.pow 2 ((n - 1).log2 + 1) := Nat.lt_log2_self
    omega

end Channel

end VolumePricing
