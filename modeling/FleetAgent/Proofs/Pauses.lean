import FleetAgent.Proofs.RetrySteps

/-!
# The pauses between attempts

Which pause follows an attempt depends on the number of the attempt alone, and not on how long the attempts
take. The intervals grow up to a cap, and all of them keep to it but the first one, which is taken as it is.
The pauses are spread around their intervals after that, so that without randomization they keep to the cap
as well, and with it they need not.
-/

namespace FleetAgent.Control

namespace Backoff

/-- The interval behind the attempt of that number, counted from zero. -/
def interval (backoff : Backoff) : Nat → Span
  | 0 => backoff.initialInterval
  | count + 1 => backoff.grow (backoff.interval count)

theorem interval_congr {backoff other : Backoff} (hinitial : other.initialInterval = backoff.initialInterval)
    (hgrow : other.grow = backoff.grow) (count : Nat) : other.interval count = backoff.interval count := by
  induction count with
  | zero => exact hinitial
  | succ count ih => rw [interval, interval, hgrow, ih]

/-- Every interval that has grown is capped. -/
theorem interval_succ_le (backoff : Backoff) (count : Nat) :
    (backoff.interval (count + 1)).nanos ≤ backoff.maxInterval.nanos :=
  Nat.min_le_right _ _

/-- The cap holds from the first interval on for which it does. -/
theorem interval_le_maxInterval_iff (backoff : Backoff) (count : Nat) :
    (backoff.interval count).nanos ≤ backoff.maxInterval.nanos ↔
      0 < count ∨ backoff.initialInterval.nanos ≤ backoff.maxInterval.nanos := by
  cases count with
  | zero => simp [interval]
  | succ count => exact iff_of_true (backoff.interval_succ_le count) (.inl count.succ_pos)

/-- Without randomization the pause is the interval itself, whatever number was drawn. -/
theorem delay_of_unspread {backoff : Backoff} (h : backoff.spread == 0) (draw : Float) (interval : Span) :
    backoff.delay draw interval = interval := by
  simp [delay, h]

end Backoff

namespace Retry

/-- The pause behind the attempt of that number, counted from zero, if it fails in time. -/
def pauseAfter (retry : Retry σ ε α) (count : Nat) : Span :=
  retry.backoff.delay (retry.draws (count + 1)) (retry.backoff.interval count)

variable {retry : Retry σ ε α} {stage next : Stage σ ε α}

/-- The stage has its interval, and the attempts behind it their pauses, from the number of attempts. -/
structure Measured (retry : Retry σ ε α) (stage : Stage σ ε α) : Prop where
  interval : stage.interval = retry.backoff.interval stage.count
  pauses : stage.tries.reverse.map Try.pause =
    (List.range stage.count).map fun count ↦ some (retry.pauseAfter count)

theorem measured_firstStage (state : σ) : retry.Measured (retry.firstStage state) where
  interval := rfl
  pauses := rfl

theorem Measured.pauseAt_eq (h : retry.Measured stage) : retry.pauseAt stage = retry.pauseAfter stage.count := by
  rw [pauseAt, h.interval, pauseAfter]

/-- From one stage to the next the interval has grown once more. -/
theorem Measured.step (h : retry.Measured stage) (hstep : retry.Steps stage next) : retry.Measured next := by
  obtain ⟨moment, error, -, -⟩ := hstep
  constructor
  · exact congrArg retry.backoff.grow h.interval
  · change (retry.tryAt stage (some (retry.pauseAt stage)) :: stage.tries).reverse.map Try.pause =
      (List.range (stage.count + 1)).map _
    rw [List.reverse_cons, List.map_append, h.pauses, List.range_succ, List.map_append, h.pauseAt_eq]
    rfl

/-- The attempts of a run have the pauses of their numbers behind them, and the last one none if it has ended
the run. -/
theorem exists_pauses (retry : Retry σ ε α) (fuel : Nat) (state : σ) :
    ∃ count closing, (retry.run fuel state).tries.map Try.pause =
      (List.range count).map (fun count ↦ some (retry.pauseAfter count)) ++ closing ∧
        (closing = [none] ∨ closing = []) := by
  obtain ⟨last, hlast, hends | hshort⟩ :=
    retry.run_spec state (measured_firstStage state) (fun _ _ h hstep ↦ h.step hstep) fuel
  · refine ⟨last.count, [none], ?_, .inl rfl⟩
    rw [hends.tries_eq, List.map_append, hlast.pauses]
    rfl
  · refine ⟨last.count, [], ?_, .inr rfl⟩
    rw [hshort, List.append_nil]
    exact hlast.pauses

/-- A pause is told by the number of the attempt in front of it. -/
theorem pause_eq_pauseAfter {fuel : Nat} {state : σ} {count : Nat} {this : Try ε α} {pause : Span}
    (hthis : (retry.run fuel state).tries[count]? = some this) (hpause : this.pause = some pause) :
    pause = retry.pauseAfter count := by
  obtain ⟨paused, closing, htries, hclosing⟩ := retry.exists_pauses fuel state
  have hentry : ((retry.run fuel state).tries.map Try.pause)[count]? = some (some pause) := by
    rw [List.getElem?_map, hthis, Option.map_some, hpause]
  rw [htries] at hentry
  rcases lt_or_ge count paused with hless | hge
  · rw [List.getElem?_append_left (by simpa using hless), List.getElem?_map,
      List.getElem?_range hless] at hentry
    exact (Option.some.inj (Option.some.inj hentry)).symm
  · rw [List.getElem?_append_right (by simpa using hge)] at hentry
    have hmem : some pause ∈ closing := List.mem_of_getElem? hentry
    rcases hclosing with rfl | rfl
    · simp at hmem
    · simp at hmem

/-- What the cap on the intervals means for the pauses. Every pause is spread around the interval of its
number, and all of these keep to the cap but the first one, when the initial interval is longer. Without
randomization the same holds of the pauses themselves. -/
theorem pause_capped (retry : Retry σ ε α) (fuel : Nat) (state : σ) (count : Nat) (this : Try ε α)
    (pause : Span) (hthis : (retry.run fuel state).tries[count]? = some this)
    (hpause : this.pause = some pause) :
    let cap := retry.backoff.maxInterval
    let initial := retry.backoff.initialInterval
    let interval := retry.backoff.interval count
    pause = retry.backoff.delay (retry.draws (count + 1)) interval ∧
      (interval.nanos ≤ cap.nanos ↔ 0 < count ∨ initial.nanos ≤ cap.nanos) ∧
      (retry.backoff.spread == 0 → (pause.nanos ≤ cap.nanos ↔ 0 < count ∨ initial.nanos ≤ cap.nanos)) := by
  intro cap initial interval
  obtain rfl := pause_eq_pauseAfter hthis hpause
  have hcapped := retry.backoff.interval_le_maxInterval_iff count
  refine ⟨rfl, hcapped, fun hspread ↦ ?_⟩
  rw [pauseAfter, Backoff.delay_of_unspread hspread]
  exact hcapped

def atThird (backoff : Backoff) (draw : Float) : Retry Nat String Unit where
  attempt := .ofCourses "connect" id "given up" fun
    | 0 => .after 0 (.error "refused")
    | 1 => .after 0 (.error "reset")
    | _ => .after 0 (.ok ())
  backoff
  draws := fun _ ↦ draw
  start := 0

def steep : Backoff where
  initialInterval := .ofMillis 20
  randomization := 0
  maxInterval := .ofMillis 10

/-- The initial interval is the cap, and pauses are spread by half of it. -/
def brim : Backoff where
  initialInterval := .ofMillis 10
  randomization := 0.5
  maxInterval := .ofMillis 10

theorem steep_capped :
    ∃ this, ((atThird steep 0).run 3 0).tries[0]? = some this ∧ this.pause = some (.ofMillis 20) ∧
      steep.spread == 0 ∧ ((Span.ofMillis 20).nanos ≤ steep.maxInterval.nanos ↔
        0 < 0 ∨ steep.initialInterval.nanos ≤ steep.maxInterval.nanos) := by
  have hpauses : ((atThird steep 0).run 3 0).tries[0]?.map Try.pause = some (some (.ofMillis 20)) := by
    decide +kernel
  have hspread : steep.spread == 0 := by decide +kernel
  obtain ⟨this, hthis, hpause⟩ := Option.map_eq_some_iff.1 hpauses
  obtain ⟨-, -, hcapped⟩ := pause_capped (atThird steep 0) 3 0 0 this _ hthis hpause
  exact ⟨this, hthis, hpause, hspread, hcapped hspread⟩

/-- Neither a first pause nor a spread one keeps to the cap. -/
theorem pauses_over_cap :
    ((atThird steep 0).run 3 0).tries.map Try.pause = [some (.ofMillis 20), some (.ofMillis 10), none] ∧
      steep.maxInterval.nanos < (Span.ofMillis 20).nanos ∧
      ((atThird brim 0.75).run 3 0).tries.map Try.pause = [some ⟨12500000⟩, some ⟨12500000⟩, none] ∧
      brim.maxInterval.nanos < 12500000 := by
  decide +kernel

end Retry

end FleetAgent.Control
