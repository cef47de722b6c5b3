import FleetAgent.Proofs.Acknowledgement
import FleetAgent.Proofs.OwnFrames
import Mathlib.Data.List.Forall2

/-!
# Links under two keys

A frame under a key is read by that key as the payload it was made of. So where two links differ in their
keys and nonces alone, and what comes in is framed under the key of the link that it comes to, the same is
received over both, whether it is a payload or an error. What is sent over them differs inside the frames
only, and attempts to register take the same course.
-/

namespace FleetAgent

namespace Control

open Codec (Key)

variable {σ τ ε α : Type} {R : FileTree → FileTree → Prop} {S : σ → τ → Prop} {key key' : Key}

/-! ## Two sequences of attempts -/

/-- The attempts end alike, report the same, and leave related states behind. -/
structure Attempted.Twins (S : σ → τ → Prop) (attempted : Attempted σ ε α) (other : Attempted τ ε α) : Prop where
  ended : attempted.ended = other.ended
  events : attempted.events = other.events
  state : S attempted.state other.state

/-- From related states the attempts go alike. -/
structure Attempt.Twins (S : σ → τ → Prop) (attempt : Attempt σ ε α) (other : Attempt τ ε α) : Prop where
  name : attempt.name = other.name
  describe : attempt.describe = other.describe
  givenUp : attempt.givenUp = other.givenUp
  run : ∀ now deadline state state', S state state' →
    (attempt.run now deadline state).Twins S (other.run now deadline state')

/-- The sequences ended alike, after the same attempts. -/
structure Trial.Twins (S : σ → τ → Prop) (trial : Trial σ ε α) (other : Trial τ ε α) : Prop where
  verdict : trial.verdict = other.verdict
  moment : trial.moment = other.moment
  tries : trial.tries = other.tries
  state : S trial.state other.state

/-- The sequences have come equally far. -/
structure Retry.Stage.Twins (S : σ → τ → Prop) (stage : Stage σ ε α) (other : Stage τ ε α) : Prop where
  count : stage.count = other.count
  interval : stage.interval = other.interval
  last : stage.last = other.last
  moment : stage.moment = other.moment
  state : S stage.state other.state
  tries : stage.tries = other.tries

theorem Attempt.Twins.giveUp_eq {attempt : Attempt σ ε α} {attempt' : Attempt τ ε α} (h : attempt.Twins S attempt')
    (backoff : Backoff) (draws : Nat → Float) (start : Moment) (count : Nat) (moment : Moment) (source : ε) :
    Retry.giveUp ⟨attempt, backoff, draws, start⟩ count moment source =
      Retry.giveUp ⟨attempt', backoff, draws, start⟩ count moment source := by
  unfold Retry.giveUp
  rw [h.name]

/-- Stages that have come equally far go on to sequences that end alike. -/
theorem Retry.twins_go {attempt : Attempt σ ε α} {attempt' : Attempt τ ε α} (h : attempt.Twins S attempt')
    (backoff : Backoff) (draws : Nat → Float) (start : Moment) (fuel : Nat) {stage : Stage σ ε α}
    {stage' : Stage τ ε α} (hstage : stage.Twins S stage') :
    (go ⟨attempt, backoff, draws, start⟩ fuel stage).Twins S (go ⟨attempt', backoff, draws, start⟩ fuel stage') := by
  induction fuel generalizing stage stage' with
  | zero => exact ⟨rfl, hstage.moment, congrArg List.reverse hstage.tries, hstage.state⟩
  | succ fuel ih =>
    obtain ⟨count, interval, last, moment, state, tries⟩ := stage
    obtain ⟨_, _, _, _, state', _⟩ := stage'
    obtain ⟨rfl, rfl, rfl, rfl, hstate, rfl⟩ := hstage
    have hrun := h.run moment (deadline ⟨attempt, backoff, draws, start⟩) state state' hstate
    have hdeadline : deadline ⟨attempt', backoff, draws, start⟩ = deadline ⟨attempt, backoff, draws, start⟩ := rfl
    unfold go
    dsimp only
    rw [hdeadline]
    generalize attempt.run moment _ state = attempted at hrun ⊢
    generalize attempt'.run moment _ state' = attempted' at hrun ⊢
    obtain ⟨ended, events, after⟩ := attempted
    obtain ⟨_, _, after'⟩ := attempted'
    obtain ⟨rfl, rfl, hafter⟩ := hrun
    cases ended with
    | broken => exact ⟨rfl, rfl, rfl, hafter⟩
    | cut =>
      refine ⟨?_, rfl, rfl, hafter⟩
      rw [Stage.finish, h.giveUp_eq, h.givenUp]
      rfl
    | done moment result =>
      cases result with
      | ok value => exact ⟨rfl, rfl, rfl, hafter⟩
      | error error =>
        dsimp only
        split
        · refine ⟨?_, rfl, rfl, hafter⟩
          rw [Stage.finish, h.giveUp_eq]
          rfl
        · exact ih ⟨rfl, rfl, rfl, rfl, hafter, rfl⟩

theorem Retry.twins_run {attempt : Attempt σ ε α} {attempt' : Attempt τ ε α} (h : attempt.Twins S attempt')
    (backoff : Backoff) (draws : Nat → Float) (start : Moment) (fuel : Nat) {state : σ} {state' : τ}
    (hstate : S state state') :
    (run ⟨attempt, backoff, draws, start⟩ fuel state).Twins S
      (run ⟨attempt', backoff, draws, start⟩ fuel state') :=
  twins_go h backoff draws start fuel ⟨rfl, rfl, rfl, rfl, hstate, rfl⟩

/-- Attempts that go alike are reported alike. -/
theorem Attempt.Twins.report {attempt : Attempt σ ε α} {attempt' : Attempt τ ε α} (h : attempt.Twins S attempt')
    (tries : List (Try ε α)) : attempt.report tries = attempt'.report tries := by
  have hevents (count : Nat) (this : Try ε α) : attempt.eventsOf count this = attempt'.eventsOf count this := by
    unfold Attempt.eventsOf Attempt.retrying Attempt.recovered
    rw [h.name, h.describe]
  unfold Attempt.report
  simp only [hevents]

/-! ## What goes over the links -/

/-- The replies come at the same time: the same error, or one payload in a frame under either key. -/
inductive Reply.Twins (key key' : Key) : Reply → Reply → Prop where
  | failure (moment : Moment) (error : ConnectError) :
    Reply.Twins key key' ⟨moment, .error error⟩ ⟨moment, .error error⟩
  | framed (moment : Moment) {nonce nonce' payload bytes bytes' : Json.Bytes}
    (hnonce : nonce.length = Codec.nonceSize) (hnonce' : nonce'.length = Codec.nonceSize)
    (hframe : key.encode nonce payload = .ok bytes) (hframe' : key'.encode nonce' payload = .ok bytes') :
    Reply.Twins key key' ⟨moment, .ok bytes⟩ ⟨moment, .ok bytes'⟩

/-- The other sides do the same, each with its key and its nonces. -/
structure Wire.Twins (key key' : Key) (wire other : Wire) : Prop where
  nonces : ∀ n, (wire.nonces n).length = Codec.nonceSize
  nonces' : ∀ n, (other.nonces n).length = Codec.nonceSize
  replies : List.Forall₂ (Reply.Twins key key') wire.replies other.replies
  sendFaults : wire.sendFaults = other.sendFaults

/-- The same payload was sent at the same time, in frames of the same length if in any, and with files in the
relation. -/
structure Sent.Twins (R : FileTree → FileTree → Prop) (sent other : Sent) : Prop where
  moment : sent.moment = other.moment
  payload : sent.payload = other.payload
  frame : sent.frame.map List.length = other.frame.map List.length
  failed : sent.failed = other.failed
  files : R sent.files other.files

/-- Nothing differs between the links but keys and nonces, and what follows from these. -/
structure Link.Twins (R : FileTree → FileTree → Prop) (key key' : Key) (link other : Link) : Prop where
  target : link.target = other.target
  key_eq : link.key = some key
  key_eq' : other.key = some key'
  wire : link.wire.Twins key key' other.wire
  sent : List.Forall₂ (Sent.Twins R) link.sent other.sent

/-- Both keys have fingerprints of the right length, as those have that secrets give. -/
structure Paired (key key' : Key) : Prop where
  id : key.id.length = Key.idSize
  id' : key'.id.length = Key.idSize

variable {link link' : Link} {files files' : FileTree}

theorem Reply.Twins.moment_eq {reply reply' : Reply} (h : reply.Twins key key' reply') :
    reply.moment = reply'.moment := by
  cases h <;> rfl

theorem Link.received_ok (hkey : link.key = some key) (moment : Moment) (bytes : Json.Bytes) :
    link.received ⟨moment, .ok bytes⟩ = (key.decode bytes).mapError .codec := by
  change link.unpack bytes = _
  rw [unpack, hkey]

/-- The same is received over both links. -/
theorem Link.Twins.received (h : link.Twins R key key' link') (hkeys : Paired key key') {reply reply' : Reply}
    (hreply : reply.Twins key key' reply') : link.received reply = link'.received reply' := by
  cases hreply with
  | failure moment error => rfl
  | framed moment hnonce hnonce' hframe hframe' =>
    rw [Link.received_ok h.key_eq, Link.received_ok h.key_eq', Key.decode_encode hkeys.id hnonce hframe,
      Key.decode_encode hkeys.id' hnonce' hframe']

theorem Link.pack_eq_ite (hkey : link.key = some key) (payload : Json.Bytes) :
    link.pack payload =
      if Cipher.Sealing.tooLong payload then .error (.codec .encryption)
      else .ok (key.frame (link.wire.nonces link.sent.length) payload) := by
  rw [pack, hkey]
  dsimp only
  rw [Key.encode_eq_ite]
  split <;> rfl

/-- Sending goes alike over both links, and leaves them alike. -/
theorem Link.Twins.send (h : link.Twins R key key' link') (hkeys : Paired key key') (hfiles : R files files')
    (now : Moment) (payload : Json.Bytes) :
    (link.send now files payload).1 = (link'.send now files' payload).1 ∧
      (link.send now files payload).2.Twins R key key' (link'.send now files' payload).2 := by
  have hwire : Wire.Twins key key' { link.wire with sendFaults := link'.wire.sendFaults.drop 1 }
      { link'.wire with sendFaults := link'.wire.sendFaults.drop 1 } :=
    ⟨h.wire.nonces, h.wire.nonces', h.wire.replies, rfl⟩
  have hlength (n n' : Nat) : (key.frame (link.wire.nonces n) payload).length =
      (key'.frame (link'.wire.nonces n') payload).length := by
    rw [Key.length_frame hkeys.id (h.wire.nonces n), Key.length_frame hkeys.id' (h.wire.nonces' n')]
  unfold Link.send Link.sendFault?
  rw [Link.pack_eq_ite h.key_eq, Link.pack_eq_ite h.key_eq', h.key_eq, h.key_eq', h.wire.sendFaults]
  split
  · exact ⟨rfl, h.target, rfl, rfl, hwire, .cons ⟨rfl, rfl, rfl, rfl, hfiles⟩ h.sent⟩
  · refine ⟨rfl, h.target, rfl, rfl, hwire, .cons ⟨rfl, rfl, ?_, rfl, hfiles⟩ h.sent⟩
    exact congrArg some (hlength _ _)

/-! ## Registering -/

/-- The waits ended alike and reported the same, and what has not been received is the same. -/
structure Awaited.Twins (key key' : Key) (awaited other : Awaited) : Prop where
  ended : awaited.ended = other.ended
  events : awaited.events = other.events
  rest : List.Forall₂ (Reply.Twins key key') awaited.rest other.rest

theorem meant_eq_of_received {reply reply' : Reply} (h : link.received reply = link'.received reply')
    (id : UInt64) : meant link id reply = meant link' id reply' := by
  unfold meant
  rw [h]

/-- Waits over links that differ in their keys alone end alike, on replies in frames under either key. -/
theorem Link.Twins.await (h : link.Twins R key key' link') (hkeys : Paired key key') (window : Window)
    (now : Moment) {replies replies' : List Reply} (hreplies : List.Forall₂ (Reply.Twins key key') replies replies') :
    (await link window now replies).Twins key key' (await link' window now replies') := by
  induction hreplies generalizing now with
  | nil => exact ⟨rfl, rfl, .nil⟩
  | @cons reply reply' _ _ hreply hrest ih =>
    have hmeant := meant_eq_of_received (h.received hkeys hreply) window.id
    unfold Control.await
    rw [← hreply.moment_eq, ← hmeant]
    dsimp only
    split
    · split
      · exact ⟨rfl, rfl, hrest⟩
      · next id _ =>
        have hlater := ih (max now reply.moment)
        exact ⟨hlater.ended, congrArg (stale window.id id :: ·) hlater.events, hlater.rest⟩
    · exact ⟨rfl, rfl, .cons hreply hrest⟩

/-- Nothing differs between the exchanges but keys and nonces, and what follows from these. -/
structure Exchange.Twins (R : FileTree → FileTree → Prop) (key key' : Key) (exchange other : Exchange) : Prop where
  link : exchange.link.Twins R key key' other.link
  nextId : exchange.nextId = other.nextId

namespace Registrar

variable (registrar : Registrar) (identity : Identity)

/-- Waiting for an acknowledgement goes alike under either key. -/
theorem twins_awaitAck (hkeys : Paired key key') (registration : Registration) (now deadline : Moment)
    {exchange exchange' : Exchange} (h : exchange.Twins R key key' exchange') :
    (registrar.awaitAck registration now deadline exchange).Twins (Exchange.Twins R key key')
      (registrar.awaitAck registration now deadline exchange') := by
  unfold awaitAck
  dsimp only
  split
  · exact ⟨rfl, rfl, h⟩
  · next closes _ =>
    have hawaited := h.link.await hkeys ⟨registration.id, registrar.ackTimeout, closes, deadline⟩ now
      h.link.wire.replies
    refine ⟨?_, congrArg (announced registration :: ·) hawaited.events,
      ⟨h.link.target, h.link.key_eq, h.link.key_eq', ?_, h.link.sent⟩, h.nextId⟩
    case refine_2 => exact ⟨h.link.wire.nonces, h.link.wire.nonces', hawaited.rest, h.link.wire.sendFaults⟩
    dsimp only
    rw [hawaited.ended, h.link.target]

/-- The attempts to register go alike. -/
theorem twins_attempt (hkeys : Paired key key') (hfiles : R files files') :
    (registrar.attempt identity files).Twins (Exchange.Twins R key key')
      (registrar.attempt identity files') := by
  refine ⟨rfl, rfl, rfl, fun now deadline exchange exchange' h ↦ ?_⟩
  rw [run_apply, run_apply]
  unfold sending payload
  rw [← h.nextId]
  obtain ⟨hsent, hlink⟩ := h.link.send hkeys hfiles now (registrar.registration identity exchange.nextId).toBytes
  rw [← hsent]
  split
  · exact ⟨rfl, rfl, hlink, rfl⟩
  · exact registrar.twins_awaitAck hkeys _ now deadline ⟨hlink, rfl⟩

/-- Registering goes alike, whatever the keys are. -/
theorem twins_register (hkeys : Paired key key') (hfiles : R files files') (backoff : Backoff)
    (draws : Nat → Float) (start : Moment) (fuel : Nat) {exchange exchange' : Exchange}
    (h : exchange.Twins R key key' exchange') :
    let registering := registrar.register identity files backoff draws start fuel exchange
    let registering' := registrar.register identity files' backoff draws start fuel exchange'
    registering.trial.Twins (Exchange.Twins R key key') registering'.trial ∧
      registering.events = registering'.events := by
  have hattempt := registrar.twins_attempt identity hkeys hfiles
  have htrial := Retry.twins_run hattempt backoff draws start fuel h
  unfold register
  dsimp only
  refine ⟨htrial, ?_⟩
  rw [hattempt.report, htrial.tries, htrial.verdict]

end Registrar

/-- Stopping goes alike, whatever the keys are. -/
theorem Pool.twins_stop (hkeys : Paired key key') (hfiles : R files files') (pool : Pool) (now : Moment)
    (h : link.Twins R key key' link') :
    (pool.stop now files link).1 = (pool.stop now files' link').1 ∧
      (pool.stop now files link).2.Twins R key key' (pool.stop now files' link').2 := by
  obtain ⟨hsent, hlink⟩ := h.send hkeys hfiles now (Departure.mk pool.systemId).toBytes
  refine ⟨?_, hlink⟩
  unfold stop
  dsimp only
  rw [hsent]

end Control

end FleetAgent
