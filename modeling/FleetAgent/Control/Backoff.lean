import FleetAgent.Number.Binary64
import FleetAgent.Time.Span

/-!
# Backoff

The delays between attempts grow by a factor up to a cap, and each of them is spread at random around
its interval, so that many agents do not come back at the same moment. The growth is computed with
seconds in floating point.
-/

namespace FleetAgent

namespace Span

/-- The span in seconds. -/
def toFloat (span : Span) : Float :=
  (span.nanos / perSecond).toUInt64.toFloat + (span.nanos % perSecond).toUInt64.toFloat / perSecond.toUInt64.toFloat

/-- The span of so many seconds, to the nearest nanosecond. A number that is not above zero gives no
time, and one that is too large the longest span. -/
def ofFloat (seconds : Float) : Span :=
  match Number.parts? seconds with
  | none => if 0 < seconds then longest else zero
  | some parts => if parts.negative then zero else least ⟨parts.scaled perSecond⟩ longest

end Span

namespace Control

structure Backoff where
  /-- The interval before the second attempt. -/
  initialInterval : Span := .ofMillis 500
  /-- The factor by which the interval grows with every attempt. -/
  multiplier : Float := 1.5
  /-- How far a delay may lie from its interval, as a part of the interval. -/
  randomization : Float := 0.5
  /-- The longest interval. -/
  maxInterval : Span := .ofSeconds 60
  /-- The time for all attempts together. -/
  maxElapsed : Span := .ofSeconds 60
  deriving Inhabited

namespace Backoff

/-- The randomization between none and all of the interval. -/
def spread (backoff : Backoff) : Float :=
  let factor := backoff.randomization
  if !factor.isFinite || factor < 0 then 0 else if 1 < factor then 1 else factor

/-- The delay for an interval and a random number between zero and one. -/
def delay (backoff : Backoff) (draw : Float) (interval : Span) : Span :=
  let spread := backoff.spread
  if spread == 0 then interval
  else
    let low := 1 - spread
    let high := 1 + spread
    .ofFloat (interval.toFloat * min high (max low (low + draw * (high - low))))

/-- The factor of growth, which is never below one. -/
def growth (backoff : Backoff) : Float :=
  if backoff.multiplier.isFinite && 1 < backoff.multiplier then backoff.multiplier else 1

/-- The interval that comes after a given one. -/
def grow (backoff : Backoff) (interval : Span) : Span :=
  Span.least (.ofFloat (interval.toFloat * backoff.growth)) backoff.maxInterval

end Backoff

end Control

end FleetAgent
