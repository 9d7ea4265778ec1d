import VolumePricing.Notice.Wire
import VolumePricing.Summary.Wire

/-!
# A shopper's history

A shopper changes the lines of a cart step by step, and staff may replace the
tiers meanwhile. Each step is priced; from the second one on the policy
compares it with the step before, and a notice that is shown is remembered.
-/

namespace VolumePricing

structure TraceStep where
  lines : List CartLine
  time : Instant
  /-- The tiers from this step on, when they change. -/
  tiers : Option (List PriceTier) := none

structure TraceOutcome where
  summary : CartSummary
  notice : Option Notice
  time : Instant

/-- What is remembered from one step to the next. -/
structure TraceState where
  tiers : List PriceTier
  previous : Option CartSummary := none
  last : Option LastNotice := none

namespace NoticePolicy

variable (policy : NoticePolicy) (fallback : Float)

def traceStep (s : TraceState) (step : TraceStep) : Checked (TraceOutcome × TraceState) := do
  let tiers := step.tiers.getD s.tiers
  let summary ← priceLines fallback step.lines tiers
  let notice := s.previous.bind fun p => policy.evaluate p summary s.last step.time
  return (⟨summary, notice, step.time⟩,
    { tiers := tiers
      previous := some summary
      last := (notice.map (·.shownAt step.time)).or s.last })

def trace (s : TraceState) : List TraceStep → Checked (List TraceOutcome)
  | [] => .ok []
  | step :: steps => do
    let (outcome, s) ← traceStep policy fallback s step
    let outcomes ← trace s steps
    return outcome :: outcomes

end NoticePolicy

/-- A notice with the time it was found, but without an id. -/
def Notice.datedJson (n : Notice) (time : Instant) : Json :=
  .object (n.members ++ [("timestamp", .int time.milliseconds)])

instance : ToJson TraceOutcome :=
  ⟨fun o => .object
    [("total_quantity", encode o.summary.totalQuantity), ("subtotal", encode o.summary.subtotal),
     ("tier_id", encode o.summary.tierId), ("next_tier", encode o.summary.nextTier),
     ("notification", Json.ofOption (·.datedJson o.time) o.notice)]⟩

end VolumePricing
