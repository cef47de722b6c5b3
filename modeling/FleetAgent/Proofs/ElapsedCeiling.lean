import FleetAgent.Proofs.Acknowledgement
import FleetAgent.Proofs.BootstrapActs

/-!
# The limit on the time for all attempts

The time of a sequence of attempts is bounded in two places, by the check before each pause, which counts
nanoseconds, and by the deadline of each attempt, which is a whole millisecond. Both keep the sequence
within the first whole millisecond at which its time is over, so that a bootstrap, which goes through two
sequences, takes no more than twice as long.
-/

namespace FleetAgent

namespace Control

/-- Whatever a sequence of attempts does, it does by the limit. -/
structure Trial.Within (trial : Trial σ ε α) (start limit : Moment) : Prop where
  starts : ∀ this ∈ trial.tries, this.start ≤ limit
  /-- A pause follows a failed attempt and is over by the limit. -/
  pauses : ∀ this ∈ trial.tries, ∀ pause, this.pause = some pause →
    ∃ moment error, this.ended = .done moment (.error error) ∧ Clock.wake moment pause ≤ limit
  ends : trial.moment ≤ limit
  elapsed : ∀ error, trial.verdict = .failure error →
    error.elapsed.nanos ≤ (Clock.since start limit).nanos

namespace Retry

variable {retry : Retry σ ε α}

/-- What the attempts up to a stage have done, they have done by the limit, and so will the next one
begin. -/
structure Keeps (retry : Retry σ ε α) (limit : Moment) (stage : Stage σ ε α) : Prop where
  begun : retry.start ≤ stage.moment
  within : stage.moment ≤ limit
  starts : ∀ this ∈ stage.tries, this.start ≤ limit
  pauses : ∀ this ∈ stage.tries, ∀ pause, this.pause = some pause →
    ∃ moment error, this.ended = .done moment (.error error) ∧ Clock.wake moment pause ≤ limit

theorem deadline_eq (hfits : Clock.canTell retry.start retry.backoff.maxElapsed) :
    retry.deadline = Clock.afterSpan retry.start retry.backoff.maxElapsed :=
  Clock.wake_of_canTell hfits

theorem keeps_firstStage (hfits : Clock.canTell retry.start retry.backoff.maxElapsed) (state : σ) :
    retry.Keeps retry.deadline (retry.firstStage state) where
  begun := le_rfl
  within := by
    rw [deadline_eq hfits]
    exact Clock.le_afterSpan _ _
  starts := by simp [firstStage]
  pauses := by simp [firstStage]

/-- An attempt that begins by the deadline and ends of its own ends by the deadline. -/
theorem Keeps.done_le {stage : Stage σ ε α} (hkeeps : retry.Keeps retry.deadline stage)
    (htimely : retry.attempt.Timely) {moment : Moment} {result : Except ε α}
    (hended : (retry.attempted stage).ended = .done moment result) :
    retry.start ≤ moment ∧ moment ≤ retry.deadline := by
  obtain ⟨hlow, hhigh⟩ := htimely _ _ _ _ _ hended
  refine ⟨hkeeps.begun.trans hlow, ?_⟩
  rwa [max_eq_right hkeeps.within] at hhigh

/-- A pause is only made when there is time for it, so the next attempt begins by the limit as well. -/
theorem Keeps.step (hfits : Clock.canTell retry.start retry.backoff.maxElapsed)
    (htimely : retry.attempt.Timely) {stage next : Stage σ ε α}
    (hkeeps : retry.Keeps retry.deadline stage) (hstep : retry.Steps stage next) :
    retry.Keeps retry.deadline next := by
  obtain ⟨moment, error, hended, hroom⟩ := hstep
  obtain ⟨hbegun, -⟩ := hkeeps.done_le htimely hended
  have hwake : Clock.wake moment (retry.pauseAt stage) ≤ retry.deadline := by
    rw [deadline_eq hfits]
    exact Clock.wake_le_afterSpan hfits hbegun hroom
  refine ⟨hbegun.trans (Clock.le_wake _ _), hwake, ?_, ?_⟩
  · rintro this (_ | ⟨_, hthis⟩)
    · exact hkeeps.within
    · exact hkeeps.starts this hthis
  · rintro this (_ | ⟨_, hthis⟩) pause hpause
    · obtain rfl := Option.some.inj hpause
      exact ⟨moment, error, hended, hwake⟩
    · exact hkeeps.pauses this hthis pause hpause

/-- Where the attempt of a stage ends the sequence by the limit, the sequence is within it. -/
theorem Keeps.closing {limit moment : Moment} {stage : Stage σ ε α} {verdict : Verdict ε α}
    (hkeeps : retry.Keeps limit stage) (hmoment : moment ≤ limit)
    (hverdict : ∀ error, verdict = .failure error → error.elapsed = Clock.since retry.start moment) :
    (retry.closing stage verdict moment).Within retry.start limit where
  starts := by
    intro this hthis
    rcases List.mem_cons.1 (List.mem_reverse.1 hthis) with rfl | hthis
    · exact hkeeps.within
    · exact hkeeps.starts this hthis
  pauses := by
    intro this hthis pause hpause
    rcases List.mem_cons.1 (List.mem_reverse.1 hthis) with rfl | hthis
    · cases hpause
    · exact hkeeps.pauses this hthis pause hpause
  ends := hmoment
  elapsed := by
    intro error herror
    rw [hverdict error herror]
    exact Clock.since_le_since hmoment

theorem Keeps.cutShort {limit : Moment} {stage : Stage σ ε α} (hkeeps : retry.Keeps limit stage) :
    stage.cutShort.Within retry.start limit where
  starts := fun this hthis ↦ hkeeps.starts this (List.mem_reverse.1 hthis)
  pauses := fun this hthis ↦ hkeeps.pauses this (List.mem_reverse.1 hthis)
  ends := hkeeps.within
  elapsed := fun _ h ↦ by cases h

theorem Keeps.ends (htimely : retry.attempt.Timely) {stage : Stage σ ε α} {trial : Trial σ ε α}
    (hkeeps : retry.Keeps retry.deadline stage) (hends : retry.Ends stage trial) :
    trial.Within retry.start retry.deadline := by
  cases hends with
  | broken => exact hkeeps.closing hkeeps.within (fun _ h ↦ by cases h)
  | cut =>
    refine hkeeps.closing (max_le hkeeps.within le_rfl) ?_
    rintro error ⟨⟩
    rfl
  | success moment value hended =>
    exact hkeeps.closing (hkeeps.done_le htimely hended).2 (fun _ h ↦ by cases h)
  | exhausted moment error hended =>
    refine hkeeps.closing (hkeeps.done_le htimely hended).2 ?_
    rintro error ⟨⟩
    rfl

/-- A sequence of attempts that keep to their deadline is over by the first whole millisecond at which
its time is. -/
theorem run_within (retry : Retry σ ε α)
    (hfits : Clock.canTell retry.start retry.backoff.maxElapsed) (htimely : retry.attempt.Timely)
    (fuel : Nat) (state : σ) :
    (retry.run fuel state).Within retry.start
      (Clock.afterSpan retry.start retry.backoff.maxElapsed) := by
  rw [← deadline_eq hfits]
  obtain ⟨last, hkeeps, hends | hshort⟩ := retry.run_spec state (keeps_firstStage hfits state)
    (fun _ _ hkeeps hstep ↦ hkeeps.step hfits htimely hstep) fuel
  · exact hkeeps.ends htimely hends
  · rw [hshort]
    exact hkeeps.cutShort

end Retry

end Control

namespace Agent

/-- Connecting is over within the time for all its attempts, with its last millisecond counted in full. -/
theorem dialing_moment_le {options : AgentOptions} {around : Surroundings} {settings : Settings}
    {now : Moment} (hfits : Clock.canTell now options.backoff.maxElapsed) :
    (dialing options around settings now).moment ≤ now + options.backoff.maxElapsed.ceilMillis := by
  rw [← Clock.afterSpan_eq_add]
  unfold dialing Control.connect
  cases Control.target settings.controllers options.port with
  | error error => exact Clock.le_afterSpan _ _
  | ok found =>
    obtain ⟨address, events⟩ := found
    have hwithin := Control.Retry.run_within
      ⟨Control.dialAttempt around.dialer address, options.backoff, around.connectDraws, now⟩
      hfits (Control.Attempt.timely_ofCourses _ _ _ _) around.fuel 0
    exact hwithin.ends

/-- Registering is over within the time for all its attempts, as connecting is. -/
theorem registering_moment_le {options : AgentOptions} {around : Surroundings}
    {identity : Control.Identity} {key : Codec.Key} {target : String} {world : World}
    (hfits : Clock.canTell world.now options.backoff.maxElapsed) :
    (registering options around identity key target world).trial.moment ≤
      world.now + options.backoff.maxElapsed.ceilMillis := by
  rw [← Clock.afterSpan_eq_add]
  have hwithin := Control.Retry.run_within
    ⟨options.registrar.attempt identity world.host.tree, options.backoff, around.poolDraws, world.now⟩
    hfits (options.registrar.attempt_timely identity world.host.tree) around.fuel
    { link := newLink around key target }
  exact hwithin.ends

/-- No time passes while the settings are read and the key is derived. -/
theorem Keyed.now_eq {options : AgentOptions} {world after : World} {store : Store} {key : Codec.Key}
    (h : Keyed options world store key after) : after.now = world.now := by
  obtain ⟨host, -, rfl⟩ := h.opened.after_eq
  rfl

theorem Connected.now_le {options : AgentOptions} {around : Surroundings} {world after : World}
    {store : Store} {key : Codec.Key} {target : String}
    (h : Connected options around world store key target after)
    (hfits : Clock.canTell world.now options.backoff.maxElapsed) :
    after.now ≤ world.now + options.backoff.maxElapsed.ceilMillis := by
  obtain ⟨keyed, hkeyed, hconnect⟩ := h
  obtain ⟨-, rfl⟩ := connect_eq hconnect
  rw [← hkeyed.now_eq] at hfits ⊢
  exact dialing_moment_le hfits

/-- Each of the two sequences of a bootstrap has the whole time for itself. -/
theorem Bootstraps.now_le {options : AgentOptions} {around : Surroundings} {world after : World}
    {result : Except Halt Agent} (h : Bootstraps options around world result after)
    (hfits : Clock.canTell (world.now + options.backoff.maxElapsed.ceilMillis)
      options.backoff.maxElapsed) :
    after.now ≤ world.now + 2 * options.backoff.maxElapsed.ceilMillis := by
  have hfirst : Clock.canTell world.now options.backoff.maxElapsed :=
    Clock.canTell_of_le (Nat.le_add_right _ _) hfits
  have hsecond {store : Store} {key : Codec.Key} {target : String} {connected after : World}
      {result : Except Halt Control.Pool}
      (hconnected : Connected options around world store key target connected)
      (hregister : register options around (identityOf store.settings) key target connected =
        (result, after)) :
      after.now ≤ world.now + 2 * options.backoff.maxElapsed.ceilMillis := by
    have hnow := hconnected.now_le hfirst
    obtain ⟨-, rfl⟩ := register_eq hregister
    rw [Nat.two_mul, ← Nat.add_assoc]
    exact (registering_moment_le (Clock.canTell_of_le hnow hfits)).trans (Nat.add_le_add_right hnow _)
  cases h with
  | unread hopen => exact Nat.le_add_right _ _
  | keyless hopened hsecret =>
    obtain ⟨host, -, rfl⟩ := hopened.after_eq
    exact Nat.le_add_right _ _
  | unconnected hkeyed hconnect =>
    obtain ⟨-, rfl⟩ := connect_eq hconnect
    rw [Nat.two_mul, ← Nat.add_assoc, ← hkeyed.now_eq]
    exact (dialing_moment_le (hkeyed.now_eq ▸ hfirst)).trans (Nat.le_add_right _ _)
  | unregistered hconnected hregister => exact hsecond hconnected hregister
  | up hconnected hregister => exact hsecond hconnected hregister

end Agent

/-- A sequence of attempts is over by the first whole millisecond at which its time is, and a bootstrap
within twice as many. -/
theorem over_in_time :
    (∀ {ε α : Type} (name : String) (describe : ε → String) (givenUp : ε)
        (courses : Nat → Course (Except ε α)) (backoff : Control.Backoff) (draws : Nat → Float)
        (start limit : Moment) (fuel : Nat), Clock.canTell start backoff.maxElapsed →
      Clock.FirstAfter start backoff.maxElapsed limit →
      (({ attempt := .ofCourses name describe givenUp courses, backoff, draws, start } :
        Control.Retry Nat ε α).run fuel 0).Within start limit) ∧
    (∀ (options : AgentOptions) (around : Surroundings) (world after : World)
        (result : Except Halt Agent),
      Clock.canTell (world.now + options.backoff.maxElapsed.ceilMillis) options.backoff.maxElapsed →
      Agent.bootstrap options around world = (result, after) → Returned result →
      after.now ≤ world.now + 2 * options.backoff.maxElapsed.ceilMillis) := by
  constructor
  · intro ε α name describe givenUp courses backoff draws start limit fuel hfits hlimit
    rw [hlimit.eq_afterSpan]
    exact Control.Retry.run_within ⟨.ofCourses name describe givenUp courses, backoff, draws, start⟩
      hfits (Control.Attempt.timely_ofCourses name describe givenUp courses) fuel 0
  · intro options around world after result hfits hrun _
    have hspec := Agent.bootstrap_spec options around world
    rw [hrun] at hspec
    exact hspec.now_le hfits

/-- The files of an agent with one controller. -/
def nodeFiles : FileTree where
  root := .dir
    [("agent.yaml".toList, .file "controllers: 10.0.0.1\n".toUTF8),
     ("secret".toList, .file "00112233445566778899aabbccddeeff\n".toUTF8),
     ("system_id".toList, .file "node-1\n".toUTF8)]

/-- Options that leave a millisecond and a half for each sequence of attempts. -/
def hasty : AgentOptions where
  settingsFile := .ofString "/agent.yaml"
  backoff := { maxElapsed := ⟨1500000⟩ }

def silence : Surroundings where
  dialer _ _ := .never
  wire := {}
  fuel := 3

theorem silence_over_in_time :
    Clock.FirstAfter 0 hasty.backoff.maxElapsed 2 ∧
      (({ attempt := .ofCourses "connect" Control.ConnectError.message .deadline fun _ ↦ .never
          backoff := hasty.backoff, draws := silence.connectDraws, start := 0 } :
        Control.Retry Nat Control.ConnectError String).run 3 0).Within 0 2 ∧
      (Agent.bootstrap hasty silence { host := { tree := nodeFiles } }).2.now ≤ 4 := by
  have hlimit : Clock.FirstAfter 0 hasty.backoff.maxElapsed 2 :=
    Clock.firstAfter_afterSpan 0 hasty.backoff.maxElapsed
  have hreturned : Returned (Agent.bootstrap hasty silence { host := { tree := nodeFiles } }).1 := by
    decide +kernel
  refine ⟨hlimit, ?_, ?_⟩
  · exact over_in_time.1 "connect" Control.ConnectError.message .deadline (fun _ ↦ .never)
      hasty.backoff silence.connectDraws 0 2 3 (by decide) hlimit
  · exact over_in_time.2 hasty silence { host := { tree := nodeFiles } } _ _ (by decide) rfl hreturned

end FleetAgent
