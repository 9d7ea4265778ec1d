import VolumePricing.FirstMatch
import VolumePricing.Hub.Channel
import VolumePricing.Notice.Wire

/-!
# The hub

The hub remembers the last summary of the shoppers it tracks. Every new summary
of a tracked shopper is compared with the one before, and a notice that is due
is sent to everyone who listens. When it tracks as many shoppers as it may, a
new one takes the place of the one whose summary was renewed longest ago.
-/

namespace VolumePricing

/-- What an action takes from the world: the time, and a number nobody could guess. -/
structure Moment where
  now : Instant
  random : Nat
  deriving DecidableEq, Repr

structure HubSettings where
  policy : NoticePolicy := {}
  channelCapacity : Nat := 100
  fallback : Float := defaultFallback
  maxTracked : Nat := 10000
  deriving DecidableEq, Repr

namespace HubSettings

/-- From this many places on a channel is larger than any memory. -/
def unboundedPlaces : Nat := 72057594037927936

/-- A channel for half of all numbers of messages or more is not made, nor one larger than
any memory. -/
def checkCapacity (capacity : UInt64) : Checked Unit :=
  if UInt64.size / 2 ≤ capacity.toNat then .error .channelCount
  else if unboundedPlaces ≤ powerAbove capacity.toNat then .error .channelSize
  else .ok ()

/-- The settings asked for in words; the channel is made first. -/
def ofWords (window : Int64) (capacity maxTracked : UInt64) (fallback : Float) :
    Checked HubSettings := do
  checkCapacity capacity
  let policy ← NoticePolicy.ofMilliseconds window
  return { policy, channelCapacity := capacity.toNat, fallback, maxTracked := maxTracked.toNat }

end HubSettings

/-- At least one shopper is tracked. -/
def HubSettings.room (settings : HubSettings) : Nat := max 1 settings.maxTracked

structure Tracked where
  user : String
  summary : CartSummary
  last : Option LastNotice
  refreshedAt : Instant
  deriving DecidableEq, Repr

namespace Tracked

/-- A shopper seen for the first time, or again after being dropped. -/
def first (user : String) (summary : CartSummary) (now : Instant) : Tracked :=
  ⟨user, summary, none, now⟩

/-- The notice that is due when a new summary comes. -/
def notice? (t : Tracked) (policy : NoticePolicy) (summary : CartSummary) (now : Instant) :
    Option Notice :=
  policy.evaluate t.summary summary t.last now

/-- What becomes of a tracked shopper when a new summary comes. -/
def renew (t : Tracked) (policy : NoticePolicy) (summary : CartSummary) (now : Instant) : Tracked :=
  { t with
    summary
    last := ((t.notice? policy summary now).map (·.shownAt now)).or t.last
    refreshedAt := now }

end Tracked

structure Hub where
  tracked : List Tracked
  channel : Channel CartNotification

namespace Hub

def new (settings : HubSettings) : Hub := ⟨[], .withCapacity settings.channelCapacity⟩

def find? (h : Hub) (user : String) : Option Tracked := h.tracked.find? (·.user == user)

/-- The one renewed longest ago, the first of those renewed at one time. -/
def stalest : List Tracked → Option Tracked
  | [] => none
  | t :: ts =>
    match stalest ts with
    | none => some t
    | some s => if t.refreshedAt ≤ s.refreshedAt then some t else some s

def dropStalest (ts : List Tracked) : List Tracked :=
  match stalest ts with
  | none => ts
  | some s => ts.filter (·.user ≠ s.user)

/-- The rest of the tracked shoppers once there is room for a new one. -/
def makeRoom (room : Nat) (ts : List Tracked) : List Tracked :=
  if room ≤ ts.length then dropStalest ts else ts

/-- A notice on its way to a shopper. -/
def dispatch (user : String) (notice : Notice) (moment : Moment) : CartNotification :=
  ⟨user, ⟨.ofRandom moment.random, notice, .ofInt moment.now.milliseconds⟩⟩

def publish (h : Hub) (user : String) (notice : Option Notice) (moment : Moment) :
    Channel CartNotification :=
  notice.elim h.channel fun n => h.channel.send (dispatch user n moment)

/-- Takes in a new summary of a shopper. -/
def observe (settings : HubSettings) (h : Hub) (user : String) (summary : CartSummary)
    (moment : Moment) : Hub :=
  match h.find? user with
  | some t =>
    { tracked := modifyFirst (·.user == user) (·.renew settings.policy summary moment.now) h.tracked
      channel := h.publish user (t.notice? settings.policy summary moment.now) moment }
  | none =>
    { h with
      tracked := makeRoom settings.room h.tracked ++ [.first user summary moment.now] }

end Hub

end VolumePricing
