import FleetAgent.Proofs.Pauses
import FleetAgent.Proofs.RetryAccounting

/-!
# More time for all attempts

Two sequences whose pauses agree, and of which one has more time than the other, go through the same stages
as long as the shorter one goes on: whatever ends by a deadline ends in the same way by a later one, and a
pause for which there is room has it in a longer time as well. So a success is the same in both, and when
the shorter sequence gives up, the longer one has made all of its attempts.
-/

namespace FleetAgent

/-- What ends by a deadline ends in the same way under a later one. -/
theorem Course.finish?_of_le {course : Course α} {now deadline later : Moment} {ending : Moment × α}
    (hle : deadline ≤ later) (h : course.finish? now deadline = some ending) :
    course.finish? now later = some ending := by
  cases course with
  | never => cases h
  | after millis value =>
    simp only [finish?, Option.ite_none_right_eq_some] at h ⊢
    exact ⟨h.1.imp_right fun hin ↦ hin.trans hle, h.2⟩

namespace Control

/-- An attempt that ends by its deadline goes the same way under a later one. -/
def Attempt.Unhurried (attempt : Attempt σ ε α) : Prop :=
  ∀ now deadline later state moment result, deadline ≤ later →
    (attempt.run now deadline state).ended = .done moment result →
      attempt.run now later state = attempt.run now deadline state

theorem Attempt.unhurried_ofCourses (name : String) (describe : ε → String) (givenUp : ε)
    (courses : Nat → Course (Except ε α)) : (ofCourses name describe givenUp courses).Unhurried := by
  intro now deadline later count moment result hle hended
  rw [ended_ofCourses] at hended
  cases hfinish : (courses count).finish? now deadline with
  | none =>
    rw [hfinish] at hended
    cases hended
  | some ending =>
    dsimp only [ofCourses]
    rw [hfinish, Course.finish?_of_le hle hfinish]

/-! ## Attempts and reports of a longer sequence -/

/-- The attempts end with one that is given up or fails for good, and those before it are among the first
ones of the longer sequence, which does not end with them. -/
structure Overtaken (tries longer : List (Try ε α)) (earlier : List (Try ε α)) (last : Try ε α) : Prop where
  tries : tries = earlier ++ [last]
  unpaused : last.pause = none
  unsuccessful : ∀ moment value, last.ended ≠ .done moment (.ok value)
  start : earlier <+: longer
  further : earlier.length < longer.length

theorem Attempt.isPrefix_report (attempt : Attempt σ ε α) {earlier tries : List (Try ε α)}
    (h : earlier <+: tries) : attempt.report earlier <+: attempt.report tries := by
  obtain ⟨rest, rfl⟩ := h
  rw [report, report, List.zipIdx_append, List.flatMap_append]
  exact List.prefix_append _ _

/-- About an attempt without success and without a pause there is no report but its own. -/
theorem Attempt.eventsOf_of_unsuccessful (attempt : Attempt σ ε α) (count : Nat) {this : Try ε α}
    (hpause : this.pause = none) (hended : ∀ moment value, this.ended ≠ .done moment (.ok value)) :
    attempt.eventsOf count this = this.events := by
  rw [eventsOf, hpause]
  split
  · contradiction
  · next moment value hsuccess => exact absurd hsuccess (hended moment value)
  · exact List.append_nil _

theorem Overtaken.length_le {tries longer earlier : List (Try ε α)} {last : Try ε α}
    (h : Overtaken tries longer earlier last) : tries.length ≤ longer.length := by
  rw [h.tries, List.length_append]
  exact h.further

theorem Overtaken.report {tries longer earlier : List (Try ε α)} {last : Try ε α}
    (h : Overtaken tries longer earlier last) (hsilent : last.events = []) (attempt : Attempt σ ε α) :
    attempt.report tries <+: attempt.report longer := by
  rw [h.tries, Attempt.report_concat, attempt.eventsOf_of_unsuccessful _ h.unpaused h.unsuccessful, hsilent,
    List.append_nil]
  exact attempt.isPrefix_report h.start

namespace Retry

/-! ## The same stages -/

/-- The sequences differ in the time for all attempts alone, of which the longer one has no less. -/
structure Outlasts (longer shorter : Retry σ ε α) : Prop where
  attempt : longer.attempt = shorter.attempt
  start : longer.start = shorter.start
  initialInterval : longer.backoff.initialInterval = shorter.backoff.initialInterval
  grow : longer.backoff.grow = shorter.backoff.grow
  pauseAfter : ∀ count, longer.pauseAfter count = shorter.pauseAfter count
  maxElapsed : shorter.backoff.maxElapsed.nanos ≤ longer.backoff.maxElapsed.nanos
  deadline : shorter.deadline ≤ longer.deadline

variable {longer shorter : Retry σ ε α} {stage next : Stage σ ε α}

namespace Outlasts

/-- The pauses have nothing to do with the time for all attempts. -/
theorem pauseAt_eq (h : longer.Outlasts shorter) (hstage : shorter.Measured stage) :
    longer.pauseAt stage = shorter.pauseAt stage :=
  calc
    longer.pauseAt stage = longer.pauseAfter stage.count := by
      rw [pauseAt, hstage.interval, ← Backoff.interval_congr h.initialInterval h.grow, Retry.pauseAfter]
    _ = shorter.pauseAfter stage.count := h.pauseAfter stage.count
    _ = shorter.pauseAt stage := hstage.pauseAt_eq.symm

theorem attempted_eq (h : longer.Outlasts shorter) (hunhurried : shorter.attempt.Unhurried)
    {moment : Moment} {result : Except ε α} (hended : (shorter.attempted stage).ended = .done moment result) :
    longer.attempted stage = shorter.attempted stage := by
  rw [attempted, h.attempt]
  exact hunhurried _ _ _ _ _ _ h.deadline hended

theorem hasRoom (h : longer.Outlasts shorter) {moment : Moment} {pause : Span}
    (hroom : shorter.HasRoom moment pause) : longer.HasRoom moment pause := by
  rw [HasRoom, h.start]
  exact hroom.trans h.maxElapsed

/-- The longer sequence takes every step that the shorter one takes. -/
theorem steps (h : longer.Outlasts shorter) (hunhurried : shorter.attempt.Unhurried)
    (hstage : shorter.Measured stage) (hstep : shorter.Steps stage next) : longer.Steps stage next := by
  obtain ⟨moment, error, hended, hroom⟩ := hstep
  have hattempted := h.attempted_eq hunhurried hended
  have hpause := h.pauseAt_eq hstage
  have hnext : longer.nextStage stage moment error = shorter.nextStage stage moment error := by
    simp only [nextStage, tryAt, hattempted, hpause, h.grow]
  rw [← hnext]
  rw [← hattempted] at hended
  rw [← hpause] at hroom
  exact .again stage moment error hended (h.hasRoom hroom)

/-- What succeeds in the shorter time succeeds in the longer one, and in the same way. -/
theorem go_of_success (h : longer.Outlasts shorter) (hunhurried : shorter.attempt.Unhurried) (fuel : Nat)
    (hstage : shorter.Measured stage) {value : α}
    (hsuccess : (shorter.go fuel stage).verdict = .success value) :
    longer.go fuel stage = shorter.go fuel stage := by
  induction fuel generalizing stage with
  | zero => cases hsuccess
  | succ fuel ih =>
    rcases shorter.go_succ fuel stage with hends | ⟨next, hstep, hgo⟩
    · generalize shorter.go (fuel + 1) stage = trial at hends hsuccess ⊢
      cases hends with
      | success moment result hended =>
        have hattempted := h.attempted_eq hunhurried hended
        have hclosing : longer.closing stage (.success result) moment =
            shorter.closing stage (.success result) moment := by
          simp only [closing, tryAt, hattempted]
        rw [← hattempted] at hended
        rw [← hclosing]
        exact (Ends.success moment result hended).go_eq fuel
      | broken | cut | exhausted => cases hsuccess
    · rw [hgo] at hsuccess ⊢
      rw [(h.steps hunhurried hstage hstep).go_eq]
      exact ih (hstage.step hstep) hsuccess

/-- When the shorter sequence gives up, the longer one has gone through all stages before. -/
theorem go_of_failure (h : longer.Outlasts shorter) (hunhurried : shorter.attempt.Unhurried)
    (fuel more : Nat) (hstage : shorter.Measured stage) {error : RetryError ε}
    (hfailure : (shorter.go fuel stage).verdict = .failure error)
    (hreturned : (longer.go more stage).verdict.Returned) :
    ∃ earlier last, Overtaken (shorter.go fuel stage).tries (longer.go more stage).tries earlier last := by
  induction fuel generalizing stage more with
  | zero => cases hfailure
  | succ fuel ih =>
    cases more with
    | zero => exact hreturned.elim
    | succ more =>
      rcases shorter.go_succ fuel stage with hends | ⟨next, hstep, hgo⟩
      · refine ⟨stage.tries.reverse, shorter.tryAt stage none, hends.tries_eq, rfl, ?_,
          longer.isPrefix_tries_go (more + 1) stage, ?_⟩
        · intro moment value hended
          have hsuccess := (Ends.success moment value hended).go_eq fuel
          rw [hsuccess] at hfailure
          cases hfailure
        · rw [List.length_reverse]
          exact longer.length_lt_tries_go more stage
      · rw [hgo] at hfailure ⊢
        rw [(h.steps hunhurried hstage hstep).go_eq] at hreturned ⊢
        exact ih more (hstage.step hstep) hfailure hreturned

theorem firstStage_eq (h : longer.Outlasts shorter) (state : σ) :
    longer.firstStage state = shorter.firstStage state := by
  rw [firstStage, firstStage, h.initialInterval, h.start]

/-- A sequence that succeeds would not have gone any other way with more time. -/
theorem run_of_success (h : longer.Outlasts shorter) (hunhurried : shorter.attempt.Unhurried) {fuel : Nat}
    {state : σ} {value : α} (hsuccess : (shorter.run fuel state).verdict = .success value) :
    longer.run fuel state = shorter.run fuel state := by
  change longer.go fuel (longer.firstStage state) = shorter.go fuel (shorter.firstStage state)
  rw [h.firstStage_eq]
  exact h.go_of_success hunhurried fuel (measured_firstStage state) hsuccess

/-- A sequence that gives up is overtaken by the one that has more time. -/
theorem run_of_failure (h : longer.Outlasts shorter) (hunhurried : shorter.attempt.Unhurried)
    {fuel more : Nat} {state : σ} {error : RetryError ε}
    (hfailure : (shorter.run fuel state).verdict = .failure error)
    (hreturned : (longer.run more state).verdict.Returned) :
    ∃ earlier last, Overtaken (shorter.run fuel state).tries (longer.run more state).tries earlier last := by
  change ((longer.go more (longer.firstStage state)).verdict).Returned at hreturned
  change ∃ earlier last, Overtaken (shorter.go fuel (shorter.firstStage state)).tries
    (longer.go more (longer.firstStage state)).tries earlier last
  rw [h.firstStage_eq] at hreturned ⊢
  exact h.go_of_failure hunhurried fuel more (measured_firstStage state) hfailure hreturned

end Outlasts

/-! ## Sequences along courses -/

/-- The warnings of a log about attempts that failed. -/
def retryWarnings (log : List Log.Event) : List Log.Event :=
  log.filter fun event ↦ event.level = .warn ∧ event.message = "Operation failed, retrying"

/-- More time for all attempts together never hurts. Of two sequences along the same courses with the same
pauses, the longer one succeeds where the shorter one does, with the same attempts at the same moments and
the same log; and where the shorter one fails, the longer one makes no fewer attempts and begins with the
same warnings. -/
theorem longer_never_hurts (name : String) (describe : ε → String) (givenUp : ε)
    (courses : Nat → Course (Except ε α)) (backoff : Backoff) (maxElapsed : Span)
    (draws draws' : Nat → Float) (start : Moment) (hfits : Clock.canTell start maxElapsed)
    (hle : backoff.maxElapsed.nanos ≤ maxElapsed.nanos) :
    let attempt := Attempt.ofCourses name describe givenUp courses
    let shorter : Retry Nat ε α := { attempt, backoff, draws, start }
    let longer : Retry Nat ε α := { attempt, backoff := { backoff with maxElapsed }, draws := draws', start }
    (∀ count, longer.pauseAfter count = shorter.pauseAfter count) →
      (∀ fuel value, (shorter.run fuel 0).verdict = .success value →
        (longer.run fuel 0).verdict = .success value ∧
          (longer.run fuel 0).state = (shorter.run fuel 0).state ∧
          (longer.run fuel 0).tries.map Try.start = (shorter.run fuel 0).tries.map Try.start ∧
          attempt.report (longer.run fuel 0).tries = attempt.report (shorter.run fuel 0).tries) ∧
      (∀ fuel more error, (shorter.run fuel 0).verdict = .failure error →
        (longer.run more 0).verdict.Returned →
          (shorter.run fuel 0).state ≤ (longer.run more 0).state ∧
          retryWarnings (attempt.report (shorter.run fuel 0).tries) <+:
            retryWarnings (attempt.report (longer.run more 0).tries)) := by
  intro attempt shorter longer hpauses
  have hunhurried : shorter.attempt.Unhurried := Attempt.unhurried_ofCourses name describe givenUp courses
  have hshort : Clock.canTell start backoff.maxElapsed := Clock.canTell_of_span_le hle hfits
  have hdeadline : shorter.deadline ≤ longer.deadline := by
    rw [deadline, deadline, Clock.wake_of_canTell hshort, Clock.wake_of_canTell hfits]
    exact Clock.afterSpan_le_afterSpan start hle
  have houtlasts : longer.Outlasts shorter := ⟨rfl, rfl, rfl, rfl, hpauses, hle, hdeadline⟩
  constructor
  · intro fuel value hsuccess
    rw [houtlasts.run_of_success hunhurried hsuccess]
    exact ⟨hsuccess, rfl, rfl, rfl⟩
  · intro fuel more error hfailure hreturned
    obtain ⟨earlier, last, hovertaken⟩ := houtlasts.run_of_failure hunhurried hfailure hreturned
    have hlast : last ∈ (shorter.run fuel 0).tries := by
      rw [hovertaken.tries]
      exact List.mem_append_right earlier (List.mem_singleton_self last)
    have hsilent : last.events = [] :=
      events_run_ofCourses name describe givenUp courses backoff draws start fuel last hlast
    constructor
    · rw [state_run_ofCourses, state_run_ofCourses]
      exact hovertaken.length_le
    · exact (hovertaken.report hsilent attempt).filter _

def mending : Nat → Course (Except String Unit)
  | 0 => .after 5 (.error "refused")
  | _ => .after 7 (.ok ())

def brief : Backoff where
  initialInterval := .ofMillis 20
  randomization := 0
  maxElapsed := .ofMillis 40

/-- In forty milliseconds there is time for a second attempt, which succeeds on one of the courses. On the
other one a third attempt is made in a hundred milliseconds, and never ends. -/
theorem brief_never_hurt :
    let short (courses : Nat → Course (Except String Unit)) : Retry Nat String Unit :=
      { attempt := .ofCourses "connect" id "given up" courses, backoff := brief, draws := fun _ ↦ 0, start := 0 }
    let long (courses : Nat → Course (Except String Unit)) : Retry Nat String Unit :=
      { short courses with backoff := { brief with maxElapsed := .ofMillis 100 } }
    ((short mending).run 5 0).verdict = .success () ∧ ((long mending).run 5 0).verdict = .success () ∧
      ((short faltering).run 5 0).state = 2 ∧ ((long faltering).run 5 0).state = 3 ∧
      retryWarnings ((short faltering).attempt.report ((short faltering).run 5 0).tries) <+:
        retryWarnings ((long faltering).attempt.report ((long faltering).run 5 0).tries) := by
  intro short long
  have hsuccess : ((short mending).run 5 0).verdict = .success () := by decide +kernel
  have hfailure : ((short faltering).run 5 0).verdict = .failure ⟨"connect", 2, .ofMillis 32, "reset"⟩ := by
    decide +kernel
  have hreturned : ((long faltering).run 5 0).verdict.Returned := by decide +kernel
  have hpauses (courses : Nat → Course (Except String Unit)) (count : Nat) :
      (long courses).pauseAfter count = (short courses).pauseAfter count := by
    have hinterval : (long courses).backoff.interval count = brief.interval count := by
      apply Backoff.interval_congr
      · rfl
      · rfl
    exact congrArg (brief.delay 0) hinterval
  have hmending := longer_never_hurts "connect" id "given up" mending brief (.ofMillis 100) (fun _ ↦ 0)
    (fun _ ↦ 0) 0 (by decide) (by decide) (hpauses mending)
  have hfaltering := longer_never_hurts "connect" id "given up" faltering brief (.ofMillis 100) (fun _ ↦ 0)
    (fun _ ↦ 0) 0 (by decide) (by decide) (hpauses faltering)
  exact ⟨hsuccess, (hmending.1 5 () hsuccess).1, by decide +kernel, by decide +kernel,
    (hfaltering.2 5 5 _ hfailure hreturned).2⟩

end Retry

end Control

end FleetAgent
