import FleetAgent.Control.Retry
import FleetAgent.Proofs.Clock
import Mathlib.Logic.Relation

/-!
# A sequence of attempts, step by step

A sequence passes from stage to stage, one failed attempt and one pause each, until an attempt ends it.
`Steps` and `Ends` say what one attempt can do, and `go_spec` that a run is nothing but such steps; what
holds at the first stage and is kept by every step therefore holds wherever a run ends.
-/

namespace FleetAgent.Control

/-- The sequence came to an end of its own: it succeeded, or it gave up. -/
def Verdict.Returned : Verdict ε α → Prop
  | .success _ | .failure _ => True
  | .broken | .unfinished => False

instance Verdict.decidableReturned : (verdict : Verdict ε α) → Decidable verdict.Returned
  | .success _ | .failure _ => .isTrue trivial
  | .broken | .unfinished => .isFalse id

/-- No attempt takes longer than its deadline allows. -/
def Attempt.Timely (attempt : Attempt σ ε α) : Prop :=
  ∀ now deadline state moment result, (attempt.run now deadline state).ended = .done moment result →
    now ≤ moment ∧ moment ≤ max now deadline

theorem Attempt.timely_ofCourses (name : String) (describe : ε → String) (givenUp : ε)
    (courses : Nat → Course (Except ε α)) : (ofCourses name describe givenUp courses).Timely := by
  intro now deadline count moment result h
  cases hcourse : courses count with
  | never => simp [ofCourses, hcourse, Course.finish?] at h
  | after millis value =>
    by_cases hmillis : millis = 0 ∨ now + millis ≤ deadline
    · simp only [ofCourses, hcourse, Course.finish?, if_pos hmillis, Ended.done.injEq] at h
      obtain ⟨rfl, rfl⟩ := h
      unfold Moment at *
      omega
    · simp [ofCourses, hcourse, Course.finish?, hmillis] at h

namespace Retry

variable (retry : Retry σ ε α)

def attempted (stage : Stage σ ε α) : Attempted σ ε α :=
  retry.attempt.run stage.moment retry.deadline stage.state

/-- The attempt of a stage as it is kept, with the pause behind it. -/
def tryAt (stage : Stage σ ε α) (pause : Option Span) : Try ε α :=
  ⟨stage.moment, (retry.attempted stage).ended, (retry.attempted stage).events, pause⟩

/-- The pause that a failure at a stage would bring. -/
def pauseAt (stage : Stage σ ε α) : Span :=
  retry.backoff.delay (retry.draws (stage.count + 1)) stage.interval

/-- There is time for a pause that begins at the moment. -/
def HasRoom (moment : Moment) (pause : Span) : Prop :=
  ((Clock.since retry.start moment).plus pause).nanos ≤ retry.backoff.maxElapsed.nanos

def nextStage (stage : Stage σ ε α) (moment : Moment) (error : ε) : Stage σ ε α :=
  { count := stage.count + 1
    interval := retry.backoff.grow stage.interval
    last := some error
    moment := Clock.wake moment (retry.pauseAt stage)
    state := (retry.attempted stage).state
    tries := retry.tryAt stage (some (retry.pauseAt stage)) :: stage.tries }

/-- A failed attempt and the pause behind it lead from one stage to the next. -/
inductive Steps : Stage σ ε α → Stage σ ε α → Prop where
  | again (stage : Stage σ ε α) (moment : Moment) (error : ε)
      (hended : (retry.attempted stage).ended = .done moment (.error error))
      (hroom : retry.HasRoom moment (retry.pauseAt stage)) :
      Steps stage (retry.nextStage stage moment error)

/-- What the sequence comes to when the attempt of a stage is its last one. -/
def closing (stage : Stage σ ε α) (verdict : Verdict ε α) (moment : Moment) : Trial σ ε α :=
  stage.finish verdict moment (retry.tryAt stage none) (retry.attempted stage).state

/-- The attempt of a stage ends the sequence. -/
inductive Ends (stage : Stage σ ε α) : Trial σ ε α → Prop where
  | broken (hended : (retry.attempted stage).ended = .broken) :
      Ends stage (retry.closing stage .broken stage.moment)
  | cut (hended : (retry.attempted stage).ended = .cut) :
      Ends stage (retry.closing stage
        (retry.giveUp (stage.count + 1) (max stage.moment retry.deadline)
          (stage.last.getD retry.attempt.givenUp))
        (max stage.moment retry.deadline))
  | success (moment : Moment) (value : α)
      (hended : (retry.attempted stage).ended = .done moment (.ok value)) :
      Ends stage (retry.closing stage (.success value) moment)
  | exhausted (moment : Moment) (error : ε)
      (hended : (retry.attempted stage).ended = .done moment (.error error))
      (hroom : ¬ retry.HasRoom moment (retry.pauseAt stage)) :
      Ends stage (retry.closing stage (retry.giveUp (stage.count + 1) moment error) moment)

section Rounds

variable {retry} {stage next : Stage σ ε α} {trial : Trial σ ε α}

/-- A step uses up one of the attempts that are looked at. -/
theorem Steps.go_eq (h : retry.Steps stage next) (fuel : Nat) :
    retry.go (fuel + 1) stage = retry.go fuel next := by
  obtain ⟨moment, error, hended, hroom⟩ := h
  simp only [attempted] at hended
  simp only [HasRoom, pauseAt] at hroom
  simp [go, nextStage, pauseAt, tryAt, attempted, hended, hroom]

theorem Ends.go_eq (h : retry.Ends stage trial) (fuel : Nat) : retry.go (fuel + 1) stage = trial := by
  cases h with
  | broken hended | cut hended | success moment value hended =>
    simp only [attempted] at hended
    simp [go, closing, tryAt, attempted, hended]
  | exhausted moment error hended hroom =>
    simp only [attempted] at hended
    simp only [HasRoom, pauseAt, Nat.not_le] at hroom
    simp [go, closing, tryAt, attempted, hended, hroom]

end Rounds

/-- The attempt of a stage ends the sequence, or a pause follows it. -/
theorem ends_or_steps (stage : Stage σ ε α) :
    (∃ trial, retry.Ends stage trial) ∨ ∃ next, retry.Steps stage next := by
  cases hended : (retry.attempted stage).ended with
  | broken => exact .inl ⟨_, .broken hended⟩
  | cut => exact .inl ⟨_, .cut hended⟩
  | done moment result =>
    cases result with
    | ok value => exact .inl ⟨_, .success moment value hended⟩
    | error error =>
      by_cases hroom : retry.HasRoom moment (retry.pauseAt stage)
      · exact .inr ⟨_, .again stage moment error hended hroom⟩
      · exact .inl ⟨_, .exhausted moment error hended hroom⟩

/-- The run is no longer looked at. -/
def Stage.cutShort (stage : Stage σ ε α) : Trial σ ε α :=
  ⟨.unfinished, stage.moment, stage.tries.reverse, stage.state⟩

/-- One round of a run: it ends here, or it goes on behind the next step. -/
theorem go_succ (fuel : Nat) (stage : Stage σ ε α) :
    retry.Ends stage (retry.go (fuel + 1) stage) ∨
      ∃ next, retry.Steps stage next ∧ retry.go (fuel + 1) stage = retry.go fuel next := by
  rcases retry.ends_or_steps stage with ⟨trial, hends⟩ | ⟨next, hstep⟩
  · exact .inl (hends.go_eq fuel ▸ hends)
  · exact .inr ⟨next, hstep, hstep.go_eq fuel⟩

/-- A run goes on by steps to a last stage, where an attempt ends it or as many attempts have been made as
are looked at. -/
theorem go_counted (fuel : Nat) (stage : Stage σ ε α) :
    ∃ last, Relation.ReflTransGen retry.Steps stage last ∧
      (retry.Ends last (retry.go fuel stage) ∨
        retry.go fuel stage = last.cutShort ∧ last.count = stage.count + fuel) := by
  induction fuel generalizing stage with
  | zero => exact ⟨stage, .refl, .inr ⟨rfl, rfl⟩⟩
  | succ fuel ih =>
    rcases retry.go_succ fuel stage with hends | ⟨next, hstep, hgo⟩
    · exact ⟨stage, .refl, .inl hends⟩
    · have hcount : next.count + fuel = stage.count + (fuel + 1) := by
        cases hstep
        exact Nat.add_right_comm _ _ _
      obtain ⟨last, hsteps, hlast⟩ := ih next
      rw [← hgo, hcount] at hlast
      exact ⟨last, .head hstep hsteps, hlast⟩

/-- However many attempts are looked at, the sequence goes from step to step until it ends or is cut short.
-/
theorem go_spec (fuel : Nat) (stage : Stage σ ε α) :
    ∃ last, Relation.ReflTransGen retry.Steps stage last ∧
      (retry.Ends last (retry.go fuel stage) ∨ retry.go fuel stage = last.cutShort) := by
  obtain ⟨last, hsteps, hlast⟩ := retry.go_counted fuel stage
  exact ⟨last, hsteps, hlast.imp_right And.left⟩

def firstStage (state : σ) : Stage σ ε α :=
  { interval := retry.backoff.initialInterval, moment := retry.start, state }

/-- What holds at the first stage and is kept by every step holds at the stage where a run ends, and a run
that is no longer looked at has gone through all its attempts. -/
theorem run_counted {Holds : Stage σ ε α → Prop} (state : σ) (hfirst : Holds (retry.firstStage state))
    (hstep : ∀ stage next, Holds stage → retry.Steps stage next → Holds next) (fuel : Nat) :
    ∃ last, Holds last ∧
      (retry.Ends last (retry.run fuel state) ∨
        retry.run fuel state = last.cutShort ∧ last.count = fuel) := by
  obtain ⟨last, hsteps, hlast⟩ := retry.go_counted fuel (retry.firstStage state)
  refine ⟨last, ?_, hlast.imp_right (And.imp_right fun hcount ↦ hcount.trans (Nat.zero_add fuel))⟩
  clear hlast
  induction hsteps with
  | refl => exact hfirst
  | tail _ hlater ih => exact hstep _ _ ih hlater

/-- What holds at the first stage, and is kept by every step, holds at the last stage of a run. -/
theorem run_spec {Holds : Stage σ ε α → Prop} (state : σ) (hfirst : Holds (retry.firstStage state))
    (hstep : ∀ stage next, Holds stage → retry.Steps stage next → Holds next) (fuel : Nat) :
    ∃ last, Holds last ∧
      (retry.Ends last (retry.run fuel state) ∨ retry.run fuel state = last.cutShort) := by
  obtain ⟨last, hholds, hlast⟩ := retry.run_counted state hfirst hstep fuel
  exact ⟨last, hholds, hlast.imp_right And.left⟩

/-! ## What a run leaves behind -/

theorem Ends.eq_closing {retry : Retry σ ε α} {stage : Stage σ ε α} {trial : Trial σ ε α}
    (h : retry.Ends stage trial) : ∃ verdict moment, trial = retry.closing stage verdict moment := by
  cases h <;> exact ⟨_, _, rfl⟩

/-- A step keeps the attempt that failed, together with the pause behind it. -/
theorem Steps.tries_eq {retry : Retry σ ε α} {stage next : Stage σ ε α} (h : retry.Steps stage next) :
    next.tries.reverse = stage.tries.reverse ++ [retry.tryAt stage (some (retry.pauseAt stage))] := by
  obtain ⟨moment, error, -, -⟩ := h
  exact List.reverse_cons

/-- There is no pause behind the last attempt. -/
theorem Ends.tries_eq {retry : Retry σ ε α} {stage : Stage σ ε α} {trial : Trial σ ε α}
    (h : retry.Ends stage trial) : trial.tries = stage.tries.reverse ++ [retry.tryAt stage none] := by
  obtain ⟨verdict, moment, rfl⟩ := h.eq_closing
  exact List.reverse_cons

/-- The attempts behind a stage are the first ones of every run that goes on from it. -/
theorem isPrefix_tries_go (fuel : Nat) (stage : Stage σ ε α) :
    stage.tries.reverse <+: (retry.go fuel stage).tries := by
  induction fuel generalizing stage with
  | zero => exact List.prefix_rfl
  | succ fuel ih =>
    rcases retry.ends_or_steps stage with ⟨trial, hends⟩ | ⟨next, hstep⟩
    · rw [hends.go_eq, hends.tries_eq]
      exact List.prefix_append _ _
    · rw [hstep.go_eq]
      have hnext := ih next
      rw [hstep.tries_eq] at hnext
      exact (List.prefix_append _ _).trans hnext

/-- A round of a run adds an attempt. -/
theorem length_lt_tries_go (fuel : Nat) (stage : Stage σ ε α) :
    stage.tries.length < (retry.go (fuel + 1) stage).tries.length := by
  rw [← List.length_reverse]
  rcases retry.ends_or_steps stage with ⟨trial, hends⟩ | ⟨next, hstep⟩
  · rw [hends.go_eq, hends.tries_eq, List.length_append]
    exact Nat.lt_succ_self _
  · rw [hstep.go_eq]
    have hnext := (retry.isPrefix_tries_go fuel next).length_le
    rw [hstep.tries_eq, List.length_append] at hnext
    exact hnext

/-- What holds of no attempts, and of one attempt more whenever it holds of those before it, holds of all
attempts of a run and of what they have made of the surroundings. -/
theorem run_tries {P : List (Try ε α) → σ → Prop} (fuel : Nat) (state : σ) (hfirst : P [] state)
    (hnext : ∀ tries state moment pause, P tries state →
      let attempted := retry.attempt.run moment retry.deadline state
      P (tries ++ [⟨moment, attempted.ended, attempted.events, pause⟩]) attempted.state) :
    P (retry.run fuel state).tries (retry.run fuel state).state := by
  have hstep (stage next : Stage σ ε α) (h : P stage.tries.reverse stage.state)
      (hstep : retry.Steps stage next) : P next.tries.reverse next.state := by
    obtain ⟨moment, error, -, -⟩ := hstep
    rw [nextStage, List.reverse_cons]
    exact hnext _ _ _ _ h
  obtain ⟨last, hlast, hends | hshort⟩ := retry.run_spec state hfirst hstep fuel
  · obtain ⟨verdict, moment, hclosing⟩ := hends.eq_closing
    rw [hclosing, closing, Stage.finish, List.reverse_cons]
    exact hnext _ _ _ _ hlast
  · rw [hshort]
    exact hlast

/-- A run that succeeds owes it to one of its attempts. -/
theorem exists_of_success {retry : Retry σ ε α} {fuel : Nat} {state : σ} {value : α}
    (h : (retry.run fuel state).verdict = .success value) :
    ∃ this ∈ (retry.run fuel state).tries, ∃ moment, this.ended = .done moment (.ok value) := by
  have hspec : ∃ last, retry.Ends last (retry.run fuel state) ∨ retry.run fuel state = last.cutShort :=
    (retry.go_spec fuel (retry.firstStage state)).imp fun _ hlast ↦ hlast.2
  obtain ⟨last, hends | hshort⟩ := hspec
  · generalize retry.run fuel state = trial at hends h ⊢
    cases hends with
    | success moment result hended =>
      obtain rfl := Verdict.success.inj h
      exact ⟨_, List.mem_reverse.2 (.head _), moment, hended⟩
    | broken | cut | exhausted => cases h
  · rw [hshort] at h
    cases h

/-- The attempts were made by the sequence, none before its start and none after the moment. -/
def Made (moment : Moment) (tries : List (Try ε α)) : Prop :=
  ∀ this ∈ tries, retry.start ≤ this.start ∧ this.start ≤ moment ∧
    ∃ stage pause, this = retry.tryAt stage pause

/-- A property of the surroundings has been kept by the attempts so far. -/
structure Holding (P : σ → Prop) (stage : Stage σ ε α) : Prop where
  begun : retry.start ≤ stage.moment
  tries : retry.Made stage.moment stage.tries
  state : P stage.state

variable {retry}

theorem Made.later {moment later : Moment} {tries : List (Try ε α)} (h : retry.Made moment tries)
    (hle : moment ≤ later) : retry.Made later tries := by
  intro this hthis
  obtain ⟨hstart, hmoment, hmade⟩ := h this hthis
  exact ⟨hstart, hmoment.trans hle, hmade⟩

theorem Made.cons {moment : Moment} {tries : List (Try ε α)} {stage : Stage σ ε α}
    (h : retry.Made moment tries) (hbegun : retry.start ≤ stage.moment) (hle : stage.moment ≤ moment)
    (pause : Option Span) : retry.Made moment (retry.tryAt stage pause :: tries) := by
  rintro this (_ | ⟨_, hthis⟩)
  · exact ⟨hbegun, hle, stage, pause, rfl⟩
  · exact h this hthis

theorem Made.reverse {moment : Moment} {tries : List (Try ε α)} (h : retry.Made moment tries) :
    retry.Made moment tries.reverse :=
  fun this hthis ↦ h this (List.mem_reverse.1 hthis)

theorem holding_firstStage (P : σ → Prop) {state : σ} (hstate : P state) :
    retry.Holding P (retry.firstStage state) where
  begun := le_rfl
  tries := by simp [Made, firstStage]
  state := hstate

/-- What every attempt keeps is kept by a step. -/
theorem Holding.step {P : σ → Prop} (htimely : retry.attempt.Timely)
    (hkept : ∀ stage, retry.start ≤ stage.moment → P stage.state → P (retry.attempted stage).state)
    {stage next : Stage σ ε α} (h : retry.Holding P stage) (hstep : retry.Steps stage next) :
    retry.Holding P next := by
  obtain ⟨moment, error, hended, -⟩ := hstep
  have hlater : stage.moment ≤ Clock.wake moment (retry.pauseAt stage) :=
    (htimely _ _ _ _ _ hended).1.trans (Clock.le_wake _ _)
  exact ⟨h.begun.trans hlater, (h.tries.later hlater).cons h.begun hlater _,
    hkept stage h.begun h.state⟩

/-- Every attempt of a run was made between its start and its end, and what each attempt keeps of the
surroundings holds behind the run. -/
theorem run_history (retry : Retry σ ε α) {P : σ → Prop} (htimely : retry.attempt.Timely)
    (hkept : ∀ stage, retry.start ≤ stage.moment → P stage.state → P (retry.attempted stage).state)
    (fuel : Nat) (state : σ) (hstate : P state) :
    retry.start ≤ (retry.run fuel state).moment ∧
      retry.Made (retry.run fuel state).moment (retry.run fuel state).tries ∧
      P (retry.run fuel state).state := by
  obtain ⟨last, hlast, hends | hshort⟩ := retry.run_spec state
    (holding_firstStage P hstate) (fun _ _ h hstep ↦ h.step htimely hkept hstep) fuel
  · have hclosing {verdict : Verdict ε α} {moment : Moment} (hmoment : last.moment ≤ moment) :
        retry.start ≤ (retry.closing last verdict moment).moment ∧
          retry.Made (retry.closing last verdict moment).moment
            (retry.closing last verdict moment).tries ∧
          P (retry.closing last verdict moment).state :=
      ⟨hlast.begun.trans hmoment, ((hlast.tries.later hmoment).cons hlast.begun hmoment none).reverse,
        hkept last hlast.begun hlast.state⟩
    generalize retry.run fuel state = trial at hends ⊢
    cases hends with
    | broken hended => exact hclosing le_rfl
    | cut hended => exact hclosing (le_max_left _ _)
    | success moment value hended => exact hclosing (htimely _ _ _ _ _ hended).1
    | exhausted moment error hended => exact hclosing (htimely _ _ _ _ _ hended).1
  · rw [hshort]
    exact ⟨hlast.begun, hlast.tries.reverse, hlast.state⟩

end Retry

end FleetAgent.Control
