import FleetAgent.Time.Span

/-!
# The clock

The clock counts whole milliseconds. A wait ends at the first of them at which its span is over, and
what is being waited for is looked at before the clock: whatever is there at the very moment at which
a deadline is reached has made it.
-/

namespace FleetAgent

/-- Milliseconds since the clock began. -/
abbrev Moment := Nat

namespace Clock

/-- The first moment at which the span is over. -/
def afterSpan (now : Moment) (span : Span) : Moment :=
  now + (span.nanos + (Span.perMilli - 1)) / Span.perMilli

/-- The clock can tell when the span is over: seconds are counted in sixty-three bits. -/
def canTell (now : Moment) (span : Span) : Bool :=
  Span.perMilli * now + span.nanos < Nat.pow 2 63 * Span.perSecond

/-- The span that stands in for one whose end the clock cannot tell: thirty years. -/
def farFuture : Span := .ofSeconds (86400 * 365 * 30)

/-- When a wait for the span ends. -/
def wake (now : Moment) (span : Span) : Moment :=
  afterSpan now (if canTell now span then span else farFuture)

/-- The end of the span, if the clock can tell it. -/
def deadline? (now : Moment) (span : Span) : Option Moment :=
  if canTell now span then some (afterSpan now span) else none

def since (start now : Moment) : Span := .ofMillis (now - start)

end Clock

/-- How an activity goes on: it gives something after so many milliseconds, or it never ends. -/
inductive Course (α : Type) where
  | after (millis : Nat) (value : α)
  | never
  deriving Repr

/-- The moment at which the activity ends and what it gives, unless the deadline comes first. -/
def Course.finish? (course : Course α) (now deadline : Moment) : Option (Moment × α) :=
  match course with
  | .after millis value =>
    if millis = 0 ∨ now + millis ≤ deadline then some (now + millis, value) else none
  | .never => none

end FleetAgent
