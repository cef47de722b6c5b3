import FleetAgent.Proofs.RetrySteps
import Mathlib.Data.List.Forall2

/-!
# Keeping account of attempts

A sequence that returns has gone through a number of failures, one at a time and each with a pause behind
it, and then through one last attempt. `Accounted` says how its result, its count and its log follow from
them: one warning for each failure, in order, and a report of success only when there were failures before.
The history is recorded stage by stage, so that each step of the sequence adds one failure to it.
-/

namespace FleetAgent.Control

structure Failure (ε : Type) where
  /-- When the attempt ended. -/
  moment : Moment
  error : ε
  pause : Span

/-- Up to the moment the attempts have failed one after the other, each of them along the course of its
own number, and the next one begins when the pause is over. -/
inductive FailedSoFar (courses : Nat → Course (Except ε α)) (start deadline : Moment) :
    List (Failure ε) → Moment → Prop where
  | none : FailedSoFar courses start deadline [] start
  | again {failures : List (Failure ε)} {now moment : Moment} {error : ε} (pause : Span)
      (earlier : FailedSoFar courses start deadline failures now)
      (hcourse : (courses failures.length).finish? now deadline = some (moment, .error error)) :
      FailedSoFar courses start deadline (failures ++ [⟨moment, error, pause⟩]) (Clock.wake moment pause)

/-- What the sequence comes to when the attempt behind the failures, which begins now, is the last one. -/
inductive Concluded (courses : Nat → Course (Except ε α)) (givenUp : ε) (deadline : Moment)
    (failures : List (Failure ε)) (now : Moment) : Verdict ε α → Prop where
  | success {moment : Moment} {value : α}
      (hcourse : (courses failures.length).finish? now deadline = some (moment, .ok value)) :
      Concluded courses givenUp deadline failures now (.success value)
  | exhausted {moment : Moment} {error : RetryError ε}
      (hcourse : (courses failures.length).finish? now deadline = some (moment, .error error.source))
      (hcount : error.attempts = failures.length + 1) :
      Concluded courses givenUp deadline failures now (.failure error)
  | cutFirst {error : RetryError ε} (hcourse : (courses failures.length).finish? now deadline = none)
      (hcount : error.attempts = failures.length + 1) (hfirst : failures = [])
      (hsource : error.source = givenUp) :
      Concluded courses givenUp deadline failures now (.failure error)
  | cutLater {error : RetryError ε} {failure : Failure ε}
      (hcourse : (courses failures.length).finish? now deadline = none)
      (hcount : error.attempts = failures.length + 1) (hlast : failures.getLast? = some failure)
      (hsource : error.source = failure.error) :
      Concluded courses givenUp deadline failures now (.failure error)

/-- The event is the warning about the failure of that number. -/
structure Warns (describe : ε → String) (count : Nat) (failure : Failure ε) (event : Log.Event) : Prop where
  level : event.level = .warn
  message : event.message = "Operation failed, retrying"
  attempt : event.fields.lookup "attempt" = some (.shown (toString count))
  error : event.fields.lookup "error" = some (.shown (describe failure.error))
  delay : failure.pause.nanos / Span.perMilli < UInt64.size →
    event.fields.lookup "delay_ms" = some (.shown (toString (failure.pause.nanos / Span.perMilli)))

/-- The event reports the success of the attempt of that number. -/
structure TellsOfSuccess (count : Nat) (event : Log.Event) : Prop where
  level : event.level = .debug
  message : event.message = "Operation succeeded after retry"
  attempt : event.fields.lookup "attempt" = some (.shown (toString count))

/-- Nothing but a warning for each failure. -/
def WarningsOf (describe : ε → String) (failures : List (Failure ε)) : List Log.Event → Prop :=
  List.Forall₂ (fun numbered ↦ Warns describe numbered.2 numbered.1) (failures.zipIdx 1)

/-- Behind a success that was not the first attempt there is one report of it, and else nothing. -/
def ClosingOf (count : Nat) (verdict : Verdict ε α) (events : List Log.Event) : Prop :=
  match verdict with
  | .success _ => if 1 < count then ∃ event, events = [event] ∧ TellsOfSuccess count event else events = []
  | _ => events = []

/-- Everything that a sequence leaves behind follows from its failures and from the attempt that begins
at the last moment. -/
structure Trial.Accounted (trial : Trial Nat ε α) (attempt : Attempt Nat ε α)
    (courses : Nat → Course (Except ε α)) (start deadline : Moment) (failures : List (Failure ε))
    (now : Moment) : Prop where
  failed : FailedSoFar courses start deadline failures now
  concluded : Concluded courses attempt.givenUp deadline failures now trial.verdict
  /-- How often the activity was carried out. -/
  runs : trial.state = failures.length + 1
  log : ∃ warnings closing, attempt.report trial.tries = warnings ++ closing ∧
    WarningsOf attempt.describe failures warnings ∧ ClosingOf (failures.length + 1) trial.verdict closing

/-! ## Reports -/

namespace Attempt

variable (attempt : Attempt σ ε α)

/-- What is reported about one more attempt comes behind all that was reported before. -/
theorem report_concat (tries : List (Try ε α)) (this : Try ε α) :
    attempt.report (tries ++ [this]) =
      attempt.report tries ++ attempt.eventsOf (tries.length + 1) this := by
  rw [report, List.zipIdx_append, List.flatMap_append, List.zipIdx_singleton, List.flatMap_singleton,
    Nat.add_comm 1]
  rfl

theorem warns_retrying (count : Nat) (moment : Moment) (error : ε) (pause : Span) :
    Warns attempt.describe count ⟨moment, error, pause⟩ (attempt.retrying count error pause) where
  level := rfl
  message := rfl
  attempt := rfl
  error := rfl
  delay := by
    intro hshort
    have hwhole : toString pause.millis = toString (pause.nanos / Span.perMilli) := by
      change toString (pause.nanos / Span.perMilli).toUInt64.toNat = _
      rw [Nat.toUInt64_eq, UInt64.toNat_ofNat_of_lt' hshort]
    rw [← hwhole]
    rfl

theorem tellsOfSuccess_recovered (count : Nat) : TellsOfSuccess count (attempt.recovered count) :=
  ⟨rfl, rfl, rfl⟩

end Attempt

theorem WarningsOf.concat {describe : ε → String} {failures : List (Failure ε)} {failure : Failure ε}
    {warnings : List Log.Event} {warning : Log.Event} (h : WarningsOf describe failures warnings)
    (hwarning : Warns describe (failures.length + 1) failure warning) :
    WarningsOf describe (failures ++ [failure]) (warnings ++ [warning]) := by
  unfold WarningsOf
  rw [List.zipIdx_append, List.zipIdx_singleton, Nat.add_comm 1]
  exact List.rel_append h (.cons hwarning .nil)

/-! ## Attempts along courses -/

namespace Attempt

variable (name : String) (describe : ε → String) (givenUp : ε) (courses : Nat → Course (Except ε α))

theorem ended_ofCourses (now deadline : Moment) (count : Nat) :
    ((ofCourses name describe givenUp courses).run now deadline count).ended =
      match (courses count).finish? now deadline with
      | some (moment, result) => .done moment result
      | none => .cut := by
  dsimp only [ofCourses]
  cases (courses count).finish? now deadline <;> rfl

theorem state_ofCourses (now deadline : Moment) (count : Nat) :
    ((ofCourses name describe givenUp courses).run now deadline count).state = count + 1 := by
  dsimp only [ofCourses]
  cases (courses count).finish? now deadline <;> rfl

theorem events_ofCourses (now deadline : Moment) (count : Nat) :
    ((ofCourses name describe givenUp courses).run now deadline count).events = [] := by
  dsimp only [ofCourses]
  cases (courses count).finish? now deadline <;> rfl

end Attempt

namespace Retry

section Courses

variable (name : String) (describe : ε → String) (givenUp : ε) (courses : Nat → Course (Except ε α))
  (backoff : Backoff) (draws : Nat → Float) (start : Moment) (fuel : Nat)

/-- The runs of an attempt along courses are counted in the surroundings. -/
theorem state_run_ofCourses :
    let retry : Retry Nat ε α :=
      { attempt := .ofCourses name describe givenUp courses, backoff, draws, start }
    (retry.run fuel 0).state = (retry.run fuel 0).tries.length := by
  intro retry
  apply retry.run_tries (P := fun tries state ↦ state = tries.length) fuel 0 rfl
  intro tries count moment pause hcount attempted
  rw [List.length_append, List.length_singleton, ← hcount]
  exact Attempt.state_ofCourses name describe givenUp courses moment _ count

/-- Attempts along courses report nothing of their own. -/
theorem events_run_ofCourses :
    let retry : Retry Nat ε α :=
      { attempt := .ofCourses name describe givenUp courses, backoff, draws, start }
    ∀ this ∈ (retry.run fuel 0).tries, this.events = [] := by
  intro retry
  apply retry.run_tries (P := fun tries _ ↦ ∀ this ∈ tries, this.events = []) fuel 0 nofun
  intro tries count moment pause hsilent attempted this hthis
  rcases List.mem_append.1 hthis with hearlier | hlast
  · exact hsilent this hearlier
  · obtain rfl := List.mem_singleton.1 hlast
    exact Attempt.events_ofCourses name describe givenUp courses moment _ count

end Courses

variable {name : String} {describe : ε → String} {givenUp : ε} {courses : Nat → Course (Except ε α)}
  {retry : Retry Nat ε α} {stage next : Stage Nat ε α} {failures : List (Failure ε)}

/-- The stage has behind it just the failures. -/
structure Recorded (retry : Retry Nat ε α) (courses : Nat → Course (Except ε α))
    (failures : List (Failure ε)) (stage : Stage Nat ε α) : Prop where
  failed : FailedSoFar courses retry.start retry.deadline failures stage.moment
  count : stage.count = failures.length
  runs : stage.state = failures.length
  tries : stage.tries.length = failures.length
  last : stage.last = failures.getLast?.map Failure.error
  log : WarningsOf retry.attempt.describe failures (retry.attempt.report stage.tries.reverse)

theorem recorded_firstStage : retry.Recorded courses [] (retry.firstStage 0) where
  failed := .none
  count := rfl
  runs := rfl
  tries := rfl
  last := rfl
  log := .nil

/-- An attempt that came to an end has gone along the course of its own number. -/
theorem finish?_of_done (hcourses : retry.attempt = .ofCourses name describe givenUp courses)
    {moment : Moment} {result : Except ε α} (h : (retry.attempted stage).ended = .done moment result) :
    (courses stage.state).finish? stage.moment retry.deadline = some (moment, result) := by
  rw [attempted, hcourses, Attempt.ended_ofCourses] at h
  split at h
  · next hfinish =>
    obtain ⟨rfl, rfl⟩ := Ended.done.inj h
    exact hfinish
  · cases h

/-- An attempt that was given up was on a course that does not end by the deadline. -/
theorem finish?_of_cut (hcourses : retry.attempt = .ofCourses name describe givenUp courses)
    (h : (retry.attempted stage).ended = .cut) :
    (courses stage.state).finish? stage.moment retry.deadline = none := by
  rw [attempted, hcourses, Attempt.ended_ofCourses] at h
  split at h
  · cases h
  · next hfinish => exact hfinish

theorem ne_broken (hcourses : retry.attempt = .ofCourses name describe givenUp courses) :
    (retry.attempted stage).ended ≠ .broken := by
  rw [attempted, hcourses, Attempt.ended_ofCourses]
  split <;> simp

/-- What is reported up to a stage and then about its attempt. -/
theorem report_tryAt (h : retry.Recorded courses failures stage) (pause : Option Span) :
    retry.attempt.report (retry.tryAt stage pause :: stage.tries).reverse =
      retry.attempt.report stage.tries.reverse ++
        retry.attempt.eventsOf (failures.length + 1) (retry.tryAt stage pause) := by
  rw [List.reverse_cons, Attempt.report_concat, List.length_reverse, h.tries]

/-- The attempts themselves report nothing. -/
theorem events_tryAt (hcourses : retry.attempt = .ofCourses name describe givenUp courses)
    (stage : Stage Nat ε α) (pause : Option Span) : (retry.tryAt stage pause).events = [] := by
  rw [tryAt, attempted, hcourses, Attempt.events_ofCourses]

/-- A step records one more failure behind those so far. -/
theorem Recorded.step (hcourses : retry.attempt = .ofCourses name describe givenUp courses)
    (h : retry.Recorded courses failures stage) (hstep : retry.Steps stage next) :
    ∃ failure, retry.Recorded courses (failures ++ [failure]) next := by
  obtain ⟨moment, error, hended, -⟩ := hstep
  have hcourse := finish?_of_done hcourses hended
  rw [h.runs] at hcourse
  refine ⟨⟨moment, error, retry.pauseAt stage⟩, ?_, ?_, ?_, ?_, ?_, ?_⟩
  · exact h.failed.again (retry.pauseAt stage) hcourse
  · simp [nextStage, h.count]
  · rw [nextStage, attempted, hcourses, Attempt.state_ofCourses, h.runs, List.length_append]
    rfl
  · simp [nextStage, h.tries]
  · simp [nextStage]
  · have hevents : retry.attempt.eventsOf (failures.length + 1)
        (retry.tryAt stage (some (retry.pauseAt stage))) =
          [retry.attempt.retrying (failures.length + 1) error (retry.pauseAt stage)] := by
      rw [Attempt.eventsOf, events_tryAt hcourses, List.nil_append, tryAt, hended]
    rw [nextStage, report_tryAt h, hevents]
    exact h.log.concat (retry.attempt.warns_retrying _ moment error _)

/-- Where the attempt of a stage is the last one, the sequence is accounted for by what is behind it. -/
theorem Recorded.ends (hcourses : retry.attempt = .ofCourses name describe givenUp courses)
    (h : retry.Recorded courses failures stage) {trial : Trial Nat ε α} (hends : retry.Ends stage trial) :
    trial.Accounted retry.attempt courses retry.start retry.deadline failures stage.moment := by
  have hruns {verdict : Verdict ε α} {moment : Moment} :
      (retry.closing stage verdict moment).state = failures.length + 1 := by
    rw [closing, Stage.finish, attempted, hcourses, Attempt.state_ofCourses, h.runs]
  have hreport {closing : List Log.Event}
      (hclosing : retry.attempt.eventsOf (failures.length + 1) (retry.tryAt stage none) = closing) :
      retry.attempt.report (retry.tryAt stage none :: stage.tries).reverse =
        retry.attempt.report stage.tries.reverse ++ closing :=
    hclosing ▸ report_tryAt h none
  have hsilent := events_tryAt hcourses stage none
  cases hends with
  | broken hended => exact absurd hended (ne_broken hcourses)
  | cut hended =>
    have hcourse := finish?_of_cut hcourses hended
    rw [h.runs] at hcourse
    have hcount : stage.count + 1 = failures.length + 1 := congrArg (· + 1) h.count
    refine ⟨h.failed, ?_, hruns, _, [], hreport ?_, h.log, rfl⟩
    · cases hlast : failures.getLast? with
      | none => exact .cutFirst hcourse hcount (List.getLast?_eq_none_iff.1 hlast) (by simp [h.last, hlast])
      | some failure => exact .cutLater hcourse hcount hlast (by simp [h.last, hlast])
    · rw [Attempt.eventsOf, hsilent, tryAt, hended]
      rfl
  | success moment value hended =>
    have hcourse := finish?_of_done hcourses hended
    rw [h.runs] at hcourse
    refine ⟨h.failed, .success hcourse, hruns, _, _, hreport rfl, h.log, ?_⟩
    rw [Attempt.eventsOf, hsilent, tryAt, hended]
    change if 1 < failures.length + 1 then _ else _
    by_cases hagain : 1 < failures.length + 1
    · rw [if_pos hagain]
      refine ⟨_, ?_, retry.attempt.tellsOfSuccess_recovered _⟩
      simp [hagain]
    · rw [if_neg hagain]
      simp [hagain]
  | exhausted moment error hended =>
    have hcourse := finish?_of_done hcourses hended
    rw [h.runs] at hcourse
    refine ⟨h.failed, .exhausted hcourse (congrArg (· + 1) h.count), hruns, _, [], hreport ?_, h.log, rfl⟩
    rw [Attempt.eventsOf, hsilent, tryAt, hended]
    rfl

/-- Some failures are all that has been recorded up to the stage. -/
def Traced (retry : Retry Nat ε α) (courses : Nat → Course (Except ε α)) (stage : Stage Nat ε α) : Prop :=
  ∃ failures, retry.Recorded courses failures stage

theorem Traced.step (hcourses : retry.attempt = .ofCourses name describe givenUp courses)
    (h : retry.Traced courses stage) (hstep : retry.Steps stage next) : retry.Traced courses next := by
  obtain ⟨failures, hrecorded⟩ := h
  obtain ⟨failure, hnext⟩ := hrecorded.step hcourses hstep
  exact ⟨failures ++ [failure], hnext⟩

/-- A sequence that returns is accounted for by its failures and its last attempt. -/
theorem run_accounted (name : String) (describe : ε → String) (givenUp : ε)
    (courses : Nat → Course (Except ε α)) (backoff : Backoff) (draws : Nat → Float) (start : Moment)
    (fuel : Nat) :
    let retry : Retry Nat ε α :=
      { attempt := .ofCourses name describe givenUp courses, backoff, draws, start }
    (retry.run fuel 0).verdict.Returned →
      ∃ failures now,
        (retry.run fuel 0).Accounted retry.attempt courses start retry.deadline failures now := by
  intro retry hreturned
  have hfirst : retry.Traced courses (retry.firstStage 0) := ⟨[], recorded_firstStage⟩
  obtain ⟨last, ⟨failures, hrecorded⟩, hends | hshort⟩ :=
    retry.run_spec 0 hfirst (fun _ _ h hstep ↦ h.step rfl hstep) fuel
  · exact ⟨failures, last.moment, hrecorded.ends rfl hends⟩
  · rw [hshort] at hreturned
    exact hreturned.elim

def faltering : Nat → Course (Except String Unit)
  | 0 => .after 5 (.error "refused")
  | 1 => .after 7 (.error "reset")
  | _ => .never

theorem faltering_accounted :
    let retry : Retry Nat String Unit :=
      { attempt := .ofCourses "connect" id "given up" faltering
        backoff := { initialInterval := .ofMillis 20, randomization := 0, maxElapsed := .ofMillis 100 }
        draws := fun _ ↦ 0
        start := 0 }
    (retry.run 5 0).verdict.Returned ∧ (retry.run 5 0).state = 3 ∧
      ∃ failures now,
        (retry.run 5 0).Accounted retry.attempt faltering 0 retry.deadline failures now := by
  intro retry
  have hreturned : (retry.run 5 0).verdict.Returned := by decide +kernel
  exact ⟨hreturned, by decide +kernel,
    run_accounted "connect" id "given up" faltering _ (fun _ ↦ 0) 0 5 hreturned⟩

end Retry

end FleetAgent.Control
