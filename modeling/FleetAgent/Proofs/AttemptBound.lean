import FleetAgent.Proofs.ElapsedCeiling
import FleetAgent.Proofs.RetryAccounting

/-!
# How many attempts there can be

Nothing counts the attempts of a sequence down. What ends it is the clock: every pause, however short, takes
a millisecond at least, and none of them ends beyond the time for all attempts together. `Paced` keeps the
first of these facts from stage to stage, the limit on the time is the second one, and together they leave
room for one attempt in each millisecond.
-/

namespace FleetAgent.Control

namespace Retry

section Pace

variable {retry : Retry σ ε α} {stage next : Stage σ ε α} {trial : Trial σ ε α}

/-- Every attempt so far has been kept, and all of them have kept to the limit; and if no pause was zero, each
has taken a millisecond at least. -/
structure Paced (retry : Retry σ ε α) (stage : Stage σ ε α) : Prop
    extends retry.Keeps retry.deadline stage where
  tries : stage.tries.length = stage.count
  moment : (∀ this ∈ stage.tries, this.pause ≠ some .zero) →
    retry.start + stage.count ≤ stage.moment

theorem paced_firstStage (hfits : Clock.canTell retry.start retry.backoff.maxElapsed) (state : σ) :
    retry.Paced (retry.firstStage state) where
  toKeeps := keeps_firstStage hfits state
  tries := rfl
  moment := fun _ ↦ le_rfl

/-- A step takes one attempt and, unless its pause is zero, a millisecond at least. -/
theorem Paced.step (hfits : Clock.canTell retry.start retry.backoff.maxElapsed)
    (htimely : retry.attempt.Timely) (h : retry.Paced stage) (hstep : retry.Steps stage next) :
    retry.Paced next := by
  have hkeeps := h.toKeeps.step hfits htimely hstep
  obtain ⟨moment, error, hended, -⟩ := hstep
  refine ⟨hkeeps, congrArg (· + 1) h.tries, fun hpauses ↦ ?_⟩
  obtain ⟨hpause, hearlier⟩ := List.forall_mem_cons.1 hpauses
  have hlater : stage.moment ≤ moment := (htimely _ _ _ _ _ hended).1
  have hwake : moment < Clock.wake moment (retry.pauseAt stage) :=
    Clock.lt_wake moment fun hzero ↦ hpause (congrArg some hzero)
  calc
    retry.start + (stage.count + 1) ≤ stage.moment + 1 := Nat.succ_le_succ (h.moment hearlier)
    _ ≤ moment + 1 := Nat.succ_le_succ hlater
    _ ≤ Clock.wake moment (retry.pauseAt stage) := hwake

/-- A stage that is reached in time has no more attempts behind it than there are milliseconds. -/
theorem Paced.count_le (hfits : Clock.canTell retry.start retry.backoff.maxElapsed)
    (h : retry.Paced stage) (hpauses : ∀ this ∈ stage.tries, this.pause ≠ some .zero) :
    stage.count ≤ retry.backoff.maxElapsed.ceilMillis := by
  have hlimit : retry.start + stage.count ≤ retry.start + retry.backoff.maxElapsed.ceilMillis :=
    calc
      retry.start + stage.count ≤ stage.moment := h.moment hpauses
      _ ≤ retry.deadline := h.within
      _ = Clock.afterSpan retry.start retry.backoff.maxElapsed := deadline_eq hfits
      _ = retry.start + retry.backoff.maxElapsed.ceilMillis := Clock.afterSpan_eq_add _ _
  exact Nat.le_of_add_le_add_left hlimit

/-- A sequence that an attempt ends has come to its end, if no attempt breaks the agent. -/
theorem Ends.returned (hsound : ∀ stage, (retry.attempted stage).ended ≠ .broken)
    (h : retry.Ends stage trial) : trial.verdict.Returned := by
  cases h with
  | broken hended => exact absurd hended (hsound stage)
  | cut | success | exhausted => trivial

end Pace

/-- Attempts that keep to their deadline and do not break the agent are over after one for each millisecond
and one more, if every pause between them takes any time. -/
theorem run_returns (retry : Retry σ ε α) (hfits : Clock.canTell retry.start retry.backoff.maxElapsed)
    (htimely : retry.attempt.Timely) (hsound : ∀ stage, (retry.attempted stage).ended ≠ .broken)
    {fuel : Nat} (hfuel : retry.backoff.maxElapsed.ceilMillis < fuel) (state : σ)
    (hpauses : ∀ this ∈ (retry.run fuel state).tries, this.pause ≠ some .zero) :
    (retry.run fuel state).verdict.Returned ∧
      (retry.run fuel state).tries.length ≤ retry.backoff.maxElapsed.ceilMillis + 1 := by
  obtain ⟨last, hpaced, hends | ⟨hshort, hcount⟩⟩ :=
    retry.run_counted state (paced_firstStage hfits state)
      (fun _ _ h hstep ↦ h.step hfits htimely hstep) fuel
  · have hcount : last.count ≤ retry.backoff.maxElapsed.ceilMillis := by
      apply hpaced.count_le hfits
      intro this hthis
      apply hpauses this
      rw [hends.tries_eq]
      exact List.mem_append_left _ (List.mem_reverse.2 hthis)
    refine ⟨hends.returned hsound, ?_⟩
    rw [hends.tries_eq, List.length_append, List.length_reverse, hpaced.tries]
    exact Nat.succ_le_succ hcount
  · -- A run that is cut short has more attempts behind it than there are milliseconds.
    have hle : fuel ≤ retry.backoff.maxElapsed.ceilMillis := by
      rw [← hcount]
      apply hpaced.count_le hfits
      intro this hthis
      apply hpauses this
      rw [hshort]
      exact List.mem_reverse.2 hthis
    exact absurd hle (not_le.2 hfuel)

/-- A sequence of attempts of any kind returns after one attempt for each millisecond of its time, the last
one counted in full, and one more, if no pause in it is zero. -/
theorem returns_after_milliseconds (name : String) (describe : ε → String) (givenUp : ε)
    (courses : Nat → Course (Except ε α)) (backoff : Backoff) (draws : Nat → Float) (start : Moment)
    (fuel : Nat) (hfits : Clock.canTell start backoff.maxElapsed)
    (hfuel : backoff.maxElapsed.ceilMillis + 1 ≤ fuel) :
    let retry : Retry Nat ε α :=
      { attempt := .ofCourses name describe givenUp courses, backoff, draws, start }
    (∀ this ∈ (retry.run fuel 0).tries, this.pause ≠ some .zero) →
      (retry.run fuel 0).verdict.Returned ∧
        (retry.run fuel 0).state ≤ backoff.maxElapsed.ceilMillis + 1 := by
  intro retry hpauses
  rw [state_run_ofCourses]
  exact retry.run_returns hfits (Attempt.timely_ofCourses name describe givenUp courses)
    (fun _ ↦ ne_broken rfl) hfuel 0 hpauses

/-- Half a millisecond between attempts, and a millisecond and a half for all of them. -/
def fleeting : Backoff where
  initialInterval := ⟨500000⟩
  multiplier := 1
  randomization := 0
  maxElapsed := ⟨1500000⟩

/-- There is one attempt in each of the milliseconds 0, 1 and 2, which is as many as there can be. -/
theorem fleeting_returns :
    let retry : Retry Nat String Unit :=
      { attempt := .ofCourses "connect" id "given up" fun _ ↦ .after 0 (.error "refused")
        backoff := fleeting, draws := fun _ ↦ 0, start := 0 }
    (∀ this ∈ (retry.run 3 0).tries, this.pause ≠ some .zero) ∧ (retry.run 3 0).verdict.Returned ∧
      (retry.run 3 0).state = 3 ∧ fleeting.maxElapsed.ceilMillis + 1 = 3 := by
  intro retry
  have hpauses : ∀ this ∈ (retry.run 3 0).tries, this.pause ≠ some .zero := by decide +kernel
  have hreturns := returns_after_milliseconds "connect" id "given up"
    (fun _ ↦ .after 0 (.error "refused" : Except String Unit)) fleeting (fun _ ↦ 0) 0 3 (by decide)
    (by decide) hpauses
  exact ⟨hpauses, hreturns.1, by decide +kernel, rfl⟩

end Retry

end FleetAgent.Control
