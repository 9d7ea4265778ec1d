import VolumePricing.Notice.Basic

/-!
# Holding notices back

A notice is a repeat when the last one shown was of the same kind for the same
tier and not longer ago than the window. Repeats are held back, and being held
back does not restart the window. The window is counted in milliseconds, but
times are finer than that.
-/

namespace VolumePricing

/-- A point in time, in nanoseconds. -/
abbrev Instant := Int

/-- The millisecond that an instant falls in. -/
def Instant.milliseconds (t : Instant) : Int := t.fdiv 1000000

/-- What was last shown to a shopper. -/
structure LastNotice where
  kind : NoticeKind
  tierId : Option UInt32
  at_ : Instant
  deriving DecidableEq, Repr

structure NoticePolicy where
  window : Int64 := 3000
  deriving DecidableEq, Repr, Inhabited

namespace NoticePolicy

/-- The shortest window there is cannot be held as a duration. -/
def ofMilliseconds (window : Int64) : Checked NoticePolicy :=
  if window = Int64.minValue then .error .milliseconds else .ok ⟨window⟩

/-- The window in nanoseconds. -/
def span (policy : NoticePolicy) : Int := policy.window.toInt * 1000000

def shouldEmit (policy : NoticePolicy) (last : Option LastNotice) (kind : NoticeKind)
    (tierId : Option UInt32) (now : Instant) : Bool :=
  match last with
  | none => true
  | some l => l.kind ≠ kind || l.tierId ≠ tierId || decide (policy.span < now - l.at_)

/-- The notice to show for a change from one summary to the next. -/
def evaluate (policy : NoticePolicy) (previous current : CartSummary) (last : Option LastNotice)
    (now : Instant) : Option Notice :=
  (Notice.candidate previous current).filter fun n => policy.shouldEmit last n.kind n.tierId now

end NoticePolicy

/-- A notice becomes the last one shown. -/
def Notice.shownAt (n : Notice) (now : Instant) : LastNotice := ⟨n.kind, n.tierId, now⟩

end VolumePricing
