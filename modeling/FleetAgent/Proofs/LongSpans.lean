import FleetAgent.Proofs.ElapsedCeiling
import FleetAgent.Proofs.FixedWindow
import FleetAgent.Proofs.KeylessPeer
import FleetAgent.Proofs.Pauses
import FleetAgent.Proofs.RetryAccounting

/-!
# Spans that are too long for the clock

Whatever the factors of a backoff are, its intervals and pauses are spans, no longer than the longest one. A
span can still be so long that the clock cannot tell its end. The limit on the time for all attempts and the
pauses between them then last thirty years instead; the window for an acknowledgement has nothing to stand in
for it, and an agent breaks down that opens one. `breaks_by_window_alone` says that it breaks down in no other
way.
-/

namespace FleetAgent

/-! ## Spans and waits -/

/-- A number of seconds that no span has is taken for the nearest one, or for none. -/
theorem Span.ofFloat_le_longest (seconds : Float) : (Span.ofFloat seconds).nanos ≤ Span.longest.nanos := by
  unfold Span.ofFloat
  split
  · split
    · exact Nat.le_refl _
    · exact Nat.zero_le _
  · split
    · exact Nat.zero_le _
    · exact Nat.min_le_right _ _

namespace Clock

/-- How long a wait for a span lasts that begins at the moment. -/
def lasting (now : Moment) (span : Span) : Span := if canTell now span then span else farFuture

theorem wake_eq_afterSpan (now : Moment) (span : Span) : wake now span = afterSpan now (lasting now span) := rfl

/-- The clock can tell the end of a wait wherever it can tell thirty years. -/
theorem canTell_lasting {now : Moment} (h : canTell now farFuture) (span : Span) :
    canTell now (lasting now span) := by
  unfold lasting
  split
  · assumption
  · exact h

end Clock

namespace Control

namespace Backoff

variable {backoff : Backoff} {interval : Span}

theorem delay_le_longest (h : interval.nanos ≤ Span.longest.nanos) (draw : Float) :
    (backoff.delay draw interval).nanos ≤ Span.longest.nanos := by
  unfold delay
  dsimp only
  split
  · exact h
  · exact Span.ofFloat_le_longest _

theorem grow_le_longest : (backoff.grow interval).nanos ≤ Span.longest.nanos :=
  (Nat.min_le_left _ _).trans (Span.ofFloat_le_longest _)

/-- However often an interval grows, it stays within the longest span. -/
theorem interval_le_longest (h : backoff.initialInterval.nanos ≤ Span.longest.nanos) (count : Nat) :
    (backoff.interval count).nanos ≤ Span.longest.nanos := by
  cases count with
  | zero => exact h
  | succ count => exact grow_le_longest

end Backoff

/-! ## Attempts that break the agent -/

namespace Retry

variable {retry : Retry σ ε α}

/-- None of the attempts up to the stage broke the agent. -/
def Stage.Unbroken (stage : Stage σ ε α) : Prop := ∀ this ∈ stage.tries, this.ended ≠ .broken

theorem unbroken_firstStage (state : σ) : (retry.firstStage state).Unbroken := nofun

/-- The sequence goes on only after an error. -/
theorem Stage.Unbroken.step {stage next : Stage σ ε α} (h : stage.Unbroken) (hstep : retry.Steps stage next) :
    next.Unbroken := by
  obtain ⟨moment, error, hended, -⟩ := hstep
  intro this hthis
  cases hthis with
  | head =>
    intro hbroken
    rw [tryAt, hended] at hbroken
    cases hbroken
  | tail _ hearlier => exact h this hearlier

/-- It is only by its last attempt that a sequence breaks. -/
theorem Ends.verdict_eq_broken_iff {stage : Stage σ ε α} {trial : Trial σ ε α} (h : retry.Ends stage trial) :
    trial.verdict = .broken ↔ (retry.attempted stage).ended = .broken := by
  cases h with
  | broken hended => exact iff_of_true rfl hended
  | cut hended | success moment value hended | exhausted moment error hended =>
    rw [hended]
    exact iff_of_false nofun nofun

/-- A sequence breaks down when one of its attempts does. -/
theorem verdict_eq_broken_iff (retry : Retry σ ε α) (fuel : Nat) (state : σ) :
    (retry.run fuel state).verdict = .broken ↔ ∃ this ∈ (retry.run fuel state).tries, this.ended = .broken := by
  obtain ⟨last, hlast, hends | hshort⟩ :=
    retry.run_spec state (unbroken_firstStage state) (fun _ _ h hstep ↦ h.step hstep) fuel
  · rw [hends.verdict_eq_broken_iff, hends.tries_eq]
    constructor
    · exact fun hbroken ↦ ⟨_, List.mem_append_right _ (.head _), hbroken⟩
    · rintro ⟨this, hthis, hbroken⟩
      rcases List.mem_append.1 hthis with hearlier | hthis
      · exact absurd hbroken (hlast this (List.mem_reverse.1 hearlier))
      · obtain rfl := List.mem_singleton.1 hthis
        exact hbroken
  · rw [hshort]
    refine iff_of_false nofun ?_
    rintro ⟨this, hthis, hbroken⟩
    exact hlast this (List.mem_reverse.1 hthis) hbroken

/-- Every attempt of a sequence is the one of a stage. -/
theorem exists_tryAt (htimely : retry.attempt.Timely) {fuel : Nat} {state : σ} {this : Try ε α}
    (hthis : this ∈ (retry.run fuel state).tries) : ∃ stage pause, this = retry.tryAt stage pause := by
  have hhistory := retry.run_history (P := fun _ ↦ True) htimely (fun _ _ _ ↦ trivial) fuel state trivial
  exact (hhistory.2.1 this hthis).2.2

end Retry

theorem connectTo_ne_broken (address : String) (backoff : Backoff) (draws : Nat → Float) (dialer : Dialer)
    (start : Moment) (fuel : Nat) : (connectTo address backoff draws dialer start fuel).verdict ≠ .broken := by
  intro hbroken
  obtain ⟨this, hthis, hended⟩ := (Retry.verdict_eq_broken_iff _ _ _).1 hbroken
  obtain ⟨stage, pause, rfl⟩ := Retry.exists_tryAt (Attempt.timely_ofCourses _ _ _ _) hthis
  exact Retry.ne_broken rfl hended

/-- Connecting never breaks the agent: a dial has no window of its own. -/
theorem connect_ne_broken (endpoints : List String) (port : UInt16) (backoff : Backoff) (draws : Nat → Float)
    (dialer : Dialer) (start : Moment) (fuel : Nat) :
    (connect endpoints port backoff draws dialer start fuel).verdict ≠ .broken := by
  unfold connect
  split
  · exact nofun
  · exact connectTo_ne_broken _ _ _ _ _ _

namespace Registrar

variable {registrar : Registrar} {identity : Identity} {files : FileTree}

/-- An attempt breaks the agent when it has sent its registration and opens a window that the clock cannot
tell. -/
theorem run_eq_broken_iff (now deadline : Moment) (exchange : Exchange) :
    ((registrar.attempt identity files).run now deadline exchange).ended = .broken ↔
      (registrar.sending identity files now exchange).1 = .ok () ∧
        ¬ Clock.canTell now registrar.ackTimeout := by
  cases hsent : (registrar.sending identity files now exchange).1 with
  | error error =>
    rw [registrar.run_of_unsent identity files deadline hsent]
    exact iff_of_false nofun nofun
  | ok sent =>
    by_cases htell : Clock.canTell now registrar.ackTimeout
    · have hcloses := Clock.deadline?_of_canTell htell
      obtain ⟨count, hreceives⟩ := exists_receives exchange.link
        (registrar.window _ deadline exchange) now exchange.link.wire.replies
      have hby := (hreceives.by_closes (Clock.le_afterSpan now registrar.ackTimeout)).giving
        (registrar.pool identity exchange)
      rw [registrar.run_of_sent identity files deadline hsent hcloses]
      exact iff_of_false hby.unbroken fun h ↦ h.2 htell
    · have hcloses : Clock.deadline? now registrar.ackTimeout = none := by
        rw [Clock.deadline?, if_neg htell]
      rw [registrar.run_of_untellable identity files deadline hsent hcloses]
      exact iff_of_true rfl ⟨rfl, htell⟩

/-- An attempt reports that its registration was sent if it was. -/
theorem announced_run_iff (now deadline : Moment) (exchange : Exchange) :
    (∃ registration, announced registration ∈
      ((registrar.attempt identity files).run now deadline exchange).events) ↔
      (registrar.sending identity files now exchange).1 = .ok () := by
  rw [run_apply]
  split
  next error hsent =>
    rw [hsent]
    exact iff_of_false nofun nofun
  next hsent =>
    rw [hsent]
    refine iff_of_true ⟨registrar.registration identity exchange.nextId, ?_⟩ rfl
    unfold awaitAck
    split
    · exact .head _
    · exact .head _

/-- The attempts of a sequence that break the agent are those that have sent their registration at a moment
from which the clock cannot tell the end of the window. -/
theorem broken_try_iff (backoff : Backoff) (draws : Nat → Float) (start : Moment) (fuel : Nat)
    (exchange : Exchange) {this : Try PoolError Pool}
    (hthis : this ∈ (registrar.register identity files backoff draws start fuel exchange).trial.tries) :
    this.ended = .broken ↔ (∃ registration, announced registration ∈ this.events) ∧
      ¬ Clock.canTell this.start registrar.ackTimeout := by
  obtain ⟨stage, pause, rfl⟩ := Retry.exists_tryAt (registrar.attempt_timely identity files) hthis
  exact (run_eq_broken_iff _ _ _).trans (and_congr_left' (announced_run_iff _ _ _).symm)

/-- Registering breaks the agent when, behind a registration that was sent, the clock cannot tell when the
window closes. -/
theorem register_broken_iff (backoff : Backoff) (draws : Nat → Float) (start : Moment) (fuel : Nat)
    (exchange : Exchange) :
    let trial := (registrar.register identity files backoff draws start fuel exchange).trial
    trial.verdict = .broken ↔ ∃ this ∈ trial.tries, (∃ registration, announced registration ∈ this.events) ∧
      ¬ Clock.canTell this.start registrar.ackTimeout := by
  intro trial
  refine (Retry.verdict_eq_broken_iff _ _ _).trans (exists_congr fun this ↦ and_congr_right fun hthis ↦ ?_)
  exact broken_try_iff backoff draws start fuel exchange hthis

end Registrar

end Control

/-- Whether an activity broke the agent can be looked up. -/
instance (result : Except Halt α) : Decidable (result = .error .broken) :=
  match result with
  | .error .broken => isTrue rfl
  | .ok _ | .error (.failed _) | .error .unfinished => isFalse nofun

namespace Agent

theorem settled_eq_broken_iff {wrap : Control.RetryError ε → BootstrapError} {verdict : Control.Verdict ε α} :
    settled wrap verdict = .error .broken ↔ verdict = .broken := by
  cases verdict <;> simp [settled]

/-- Connecting breaks nothing. -/
theorem connect_ne_error_broken {options : AgentOptions} {around : Surroundings} {settings : Settings}
    {world after : World} : connect options around settings world ≠ (.error .broken, after) := by
  intro h
  have hverdict := settled_eq_broken_iff.1 (connect_eq h).1
  exact Control.connect_ne_broken _ _ _ _ _ _ _ hverdict

/-- A bootstrap breaks down when the agent is connected and its registering does. -/
theorem bootstrap_eq_broken_iff (options : AgentOptions) (around : Surroundings) (world : World) :
    (bootstrap options around world).1 = .error .broken ↔
      ∃ store key target connected, Connected options around world store key target connected ∧
        (registering options around (identityOf store.settings) key target connected).trial.verdict =
          .broken := by
  constructor
  · intro hbroken
    have hspec := bootstrap_spec options around world
    rw [hbroken] at hspec
    generalize (bootstrap options around world).2 = after at hspec
    cases hspec with
    | unconnected hkeyed hconnect => exact absurd hconnect connect_ne_error_broken
    | unregistered hconnected hregister =>
      exact ⟨_, _, _, _, hconnected, settled_eq_broken_iff.1 (register_eq hregister).1⟩
  · rintro ⟨store, key, target, connected, hconnected, hbroken⟩
    rw [hconnected.bootstrap_eq, bind_apply, register_apply, hbroken]
    rfl

/-- Which spans a bootstrap can take. Whatever the factors of its backoff are, the intervals and the pauses are
spans, and so is the time that an attempt has taken with its pause. A wait whose end the clock cannot tell
lasts thirty years instead; the limits and the pauses are such waits. The windows for acknowledgements are
not, and a bootstrap breaks down exactly when an attempt has sent its registration and opens a window whose
end the clock cannot tell. -/
theorem breaks_by_window_alone (options : AgentOptions) (around : Surroundings) (world : World)
    (hspan : options.backoff.initialInterval.nanos ≤ Span.longest.nanos) :
    let backoff := options.backoff
    (∀ count draw (elapsed : Span), (backoff.interval count).nanos ≤ Span.longest.nanos ∧
      (backoff.delay draw (backoff.interval count)).nanos ≤ Span.longest.nanos ∧
      (elapsed.plus (backoff.delay draw (backoff.interval count))).nanos ≤ Span.longest.nanos) ∧
    (∀ now span, Clock.canTell now Clock.farFuture →
      Clock.wake now span = Clock.afterSpan now (Clock.lasting now span) ∧
        Clock.canTell now (Clock.lasting now span)) ∧
    ((bootstrap options around world).1 = .error .broken ↔
      ∃ store key target connected, Connected options around world store key target connected ∧
        ∃ this ∈ (registering options around (identityOf store.settings) key target connected).trial.tries,
          (∃ registration, Control.Registrar.announced registration ∈ this.events) ∧
            ¬ Clock.canTell this.start options.registrar.ackTimeout) := by
  intro backoff
  refine ⟨?_, ?_, ?_⟩
  · intro count draw elapsed
    have hinterval := Control.Backoff.interval_le_longest hspan count
    exact ⟨hinterval, Control.Backoff.delay_le_longest hinterval draw, Nat.min_le_right _ _⟩
  · intro now span hfar
    exact ⟨Clock.wake_eq_afterSpan now span, Clock.canTell_lasting hfar span⟩
  · rw [bootstrap_eq_broken_iff]
    constructor
    · rintro ⟨store, key, target, connected, hconnected, hbroken⟩
      exact ⟨store, key, target, connected, hconnected,
        (Control.Registrar.register_broken_iff _ _ _ _ _).1 hbroken⟩
    · rintro ⟨store, key, target, connected, hconnected, hwindow⟩
      exact ⟨store, key, target, connected, hconnected,
        (Control.Registrar.register_broken_iff _ _ _ _ _).2 hwindow⟩

/-- Options with spans that are as long as spans can be. -/
def boundless : AgentOptions where
  settingsFile := .ofString "/agent.yaml"
  backoff := { initialInterval := .longest, maxInterval := .longest, maxElapsed := .longest }
  registrar := { ackTimeout := .longest }

theorem boundless_breaks :
    boundless.backoff.initialInterval.nanos ≤ Span.longest.nanos ∧
      (bootstrap boundless welcome { host := { tree := nodeFiles } }).1 = .error .broken ∧
      ∃ store key target connected,
        Connected boundless welcome { host := { tree := nodeFiles } } store key target connected ∧
        ∃ this ∈ (registering boundless welcome (identityOf store.settings) key target connected).trial.tries,
          (∃ registration, Control.Registrar.announced registration ∈ this.events) ∧
            ¬ Clock.canTell this.start .longest := by
  have hspan : boundless.backoff.initialInterval.nanos ≤ Span.longest.nanos := Nat.le_refl _
  have hbroken : (bootstrap boundless welcome { host := { tree := nodeFiles } }).1 = .error .broken := by
    decide +kernel
  exact ⟨hspan, hbroken, (breaks_by_window_alone boundless welcome _ hspan).2.2.1 hbroken⟩

end Agent

namespace Control.Registrar

def promptly : Exchange where
  link :=
    { target := "10.0.0.1:5271"
      key := none
      wire := { replies := [⟨5, .ok (Ack.mk 1 true none).toBytes⟩] } }

/-- The longest window breaks the agent although the registration is accepted at once, as it is in a window
of thirty years. -/
theorem longest_window_breaks :
    (registerOnce { ackTimeout := .longest } ⟨"node-1", ""⟩ {} 0 promptly).ended = .broken ∧
      (registerOnce { ackTimeout := Clock.farFuture } ⟨"node-1", ""⟩ {} 0 promptly).ended =
        .done 5 (.ok ⟨"node-1", queuesOf "node-1" [], "10.0.0.1:5271"⟩) := by
  have hparse : (Ack.ofBytes (Ack.mk 1 true none).toBytes).toOption = some ⟨1, true, none⟩ := by
    decide +kernel
  have hack : Ack.ofBytes (Ack.mk 1 true none).toBytes = .ok ⟨1, true, none⟩ := by
    cases hbytes : Ack.ofBytes (Ack.mk 1 true none).toBytes <;> simp_all [Except.toOption]
  constructor
  · exact run_of_untellable _ _ _ _ rfl (by decide)
  · rw [registerOnce, run_of_sent _ _ _ _ rfl (Clock.deadline?_of_canTell (by decide))]
    refine Ended.giving_eq_done_iff.2 ⟨.ok (), ?_, rfl⟩
    let window : Window :=
      ⟨1, Clock.farFuture, Clock.afterSpan 0 Clock.farFuture, Clock.wake 0 Clock.farFuture⟩
    have hreached : window.reaches 0 5 = true := by decide
    have hmeant : meant promptly.link window.id ⟨5, .ok (Ack.mk 1 true none).toBytes⟩ = .decides (.ok ()) :=
      meant_of_own ⟨_, rfl, hack⟩ rfl
    change (await promptly.link window 0 [⟨5, .ok (Ack.mk 1 true none).toBytes⟩]).ended = _
    simp only [await, Nat.zero_max, hreached, if_true, hmeant]

end Control.Registrar

end FleetAgent
