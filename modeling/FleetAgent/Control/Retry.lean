import FleetAgent.Control.Backoff
import FleetAgent.Log.Event
import FleetAgent.Time.Clock

/-!
# Retrying

An activity is tried again and again until it succeeds or its time is up. There are two ways to run
out of time: the delay before the next attempt would go beyond the time for all of them, and then that
attempt is not begun; or an attempt is still running when the time is up, and then it is given up.
Every attempt and every delay is kept, and what is reported follows from them.
-/

namespace FleetAgent.Control

inductive Ended (ε α : Type) where
  | done (moment : Moment) (result : Except ε α)
  /-- It was still running when the time was up. -/
  | cut
  /-- It asked for a moment that the clock cannot tell, and the agent broke down. -/
  | broken

structure Attempted (σ ε α : Type) where
  ended : Ended ε α
  events : List Log.Event := []
  state : σ

/-- Something that can be tried, in surroundings that each attempt may change. -/
structure Attempt (σ ε α : Type) where
  name : String
  /-- What is reported about an error. -/
  describe : ε → String
  /-- The error when the very first attempt is given up. -/
  givenUp : ε
  /-- One attempt, from a moment up to a deadline. -/
  run : Moment → Moment → σ → Attempted σ ε α

/-- An attempt whose n-th run takes the n-th course; the runs are counted. -/
def Attempt.ofCourses (name : String) (describe : ε → String) (givenUp : ε)
    (courses : Nat → Course (Except ε α)) : Attempt Nat ε α where
  name
  describe
  givenUp
  run start deadline count :=
    match (courses count).finish? start deadline with
    | some (moment, result) => { ended := .done moment result, state := count + 1 }
    | none => { ended := .cut, state := count + 1 }

structure Try (ε α : Type) where
  start : Moment
  ended : Ended ε α
  events : List Log.Event
  /-- How long the sequence paused afterwards. -/
  pause : Option Span := none

structure RetryError (ε : Type) where
  name : String
  attempts : Nat
  elapsed : Span
  /-- The last error that an attempt ended with. -/
  source : ε
  deriving DecidableEq, Repr

def RetryError.message (describe : ε → String) (error : RetryError ε) : String :=
  error.name ++ " failed after " ++ toString error.attempts ++ " attempt(s) in " ++ error.elapsed.toString ++
    ": " ++ describe error.source

/-- How a sequence of attempts ends. -/
inductive Verdict (ε α : Type) where
  | success (value : α)
  | failure (error : RetryError ε)
  | broken
  /-- It has not ended within the attempts that were looked at. -/
  | unfinished
  deriving DecidableEq

structure Trial (σ ε α : Type) where
  verdict : Verdict ε α
  /-- When it ended. -/
  moment : Moment
  tries : List (Try ε α)
  state : σ

/-- What stays the same throughout a sequence: the attempt, the backoff, a random number for each
delay, and the time within which it has to end. -/
structure Retry (σ ε α : Type) where
  attempt : Attempt σ ε α
  backoff : Backoff
  draws : Nat → Float
  start : Moment

namespace Retry

def deadline (retry : Retry σ ε α) : Moment := Clock.wake retry.start retry.backoff.maxElapsed

/-- What changes in the course of a sequence. -/
structure Stage (σ ε α : Type) where
  count : Nat := 0
  interval : Span
  last : Option ε := none
  moment : Moment
  state : σ
  /-- The attempts so far, the latest first. -/
  tries : List (Try ε α) := []

/-- The sequence ends with the given attempt. -/
def Stage.finish (stage : Stage σ ε α) (verdict : Verdict ε α) (moment : Moment) (last : Try ε α)
    (state : σ) : Trial σ ε α :=
  ⟨verdict, moment, (last :: stage.tries).reverse, state⟩

def giveUp (retry : Retry σ ε α) (count : Nat) (moment : Moment) (source : ε) : Verdict ε α :=
  .failure ⟨retry.attempt.name, count, Clock.since retry.start moment, source⟩

/-- Goes on with at most so many attempts. -/
def go (retry : Retry σ ε α) : Nat → Stage σ ε α → Trial σ ε α
  | 0, stage => ⟨.unfinished, stage.moment, stage.tries.reverse, stage.state⟩
  | fuel + 1, stage =>
    let start := stage.moment
    let count := stage.count + 1
    let attempted := retry.attempt.run start retry.deadline stage.state
    let this : Try ε α := ⟨start, attempted.ended, attempted.events, none⟩
    match attempted.ended with
    | .broken => stage.finish .broken start this attempted.state
    | .cut =>
      let moment := max start retry.deadline
      let source := stage.last.getD retry.attempt.givenUp
      stage.finish (retry.giveUp count moment source) moment this attempted.state
    | .done moment (.ok value) => stage.finish (.success value) moment this attempted.state
    | .done moment (.error error) =>
      let pause := retry.backoff.delay (retry.draws count) stage.interval
      if retry.backoff.maxElapsed.nanos < ((Clock.since retry.start moment).plus pause).nanos then
        stage.finish (retry.giveUp count moment error) moment this attempted.state
      else
        go retry fuel
          { count, interval := retry.backoff.grow stage.interval, last := some error
            moment := Clock.wake moment pause, state := attempted.state
            tries := { this with pause := some pause } :: stage.tries }

/-- The whole sequence, if it needs no more than so many attempts. -/
def run (retry : Retry σ ε α) (fuel : Nat) (state : σ) : Trial σ ε α :=
  retry.go fuel { interval := retry.backoff.initialInterval, moment := retry.start, state }

end Retry

/-! ## Reports -/

namespace Attempt

/-- The report that an attempt failed and that another one follows. -/
def retrying (attempt : Attempt σ ε α) (count : Nat) (error : ε) (pause : Span) : Log.Event :=
  ⟨.warn, "fleetd_agent::retry", "Operation failed, retrying",
    [("operation", .shown attempt.name), ("attempt", .shown (toString count)),
     ("error", .shown (attempt.describe error)), ("delay_ms", .shown (toString pause.millis))]⟩

/-- The report that not the first attempt succeeded. -/
def recovered (attempt : Attempt σ ε α) (count : Nat) : Log.Event :=
  ⟨.debug, "fleetd_agent::retry", "Operation succeeded after retry",
    [("operation", .shown attempt.name), ("attempt", .shown (toString count))]⟩

/-- What is reported about one attempt with the given number. -/
def eventsOf (attempt : Attempt σ ε α) (count : Nat) (this : Try ε α) : List Log.Event :=
  this.events ++ match this.ended, this.pause with
    | .done _ (.error error), some pause => [attempt.retrying count error pause]
    | .done _ (.ok _), _ => if 1 < count then [attempt.recovered count] else []
    | _, _ => []

def report (attempt : Attempt σ ε α) (tries : List (Try ε α)) : List Log.Event :=
  (tries.zipIdx 1).flatMap fun (this, count) ↦ attempt.eventsOf count this

end Attempt

end FleetAgent.Control
