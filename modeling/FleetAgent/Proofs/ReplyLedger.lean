import FleetAgent.Proofs.Acknowledgement
import Mathlib.Data.List.Forall2

/-!
# What becomes of the replies

All attempts of one sequence take their replies from the front of the same queue. A ledger has an entry for
each attempt, with what it sent and what it took, and accounts for the whole sequence: what was taken is
what the queue began with, in order, and every reply that decided nothing was reported once.
-/

namespace FleetAgent.Control

/-- Time ran out on the attempt, for the acknowledgement or for the whole sequence. -/
def Ended.TimedOut : Ended PoolError α → Prop
  | .done _ (.error (.ackTimeout _)) | .cut => True
  | _ => False

/-- What one attempt to register sent, and what it took from the replies. -/
structure Intake where
  registration : Registration
  sent : Sent
  /-- The replies that were passed over, each with the identifier that it acknowledges. -/
  dropped : List (Reply × UInt64) := []
  /-- The reply that decided the attempt. -/
  decider : Option Reply := none

namespace Intake

/-- The replies that were taken, in order. -/
def taken (intake : Intake) : List Reply := intake.dropped.map Prod.fst ++ intake.decider.toList

def drops (intake : Intake) : List Log.Event :=
  intake.dropped.map fun entry ↦ ⟨.debug, "fleetd_agent::pool", "Dropping stale registration reply",
    [("expected", .shown (toString intake.registration.id)), ("received", .shown (toString entry.2))]⟩

/-- The entry of the ledger says what the attempt did. -/
structure Explains (link : Link) (intake : Intake) (this : Try PoolError Pool) : Prop where
  moment : intake.sent.moment = this.start
  payload : intake.sent.payload = intake.registration.toBytes
  foreign : ∀ entry ∈ intake.dropped,
    ∃ ack, Acknowledges link entry.1 ack ∧ ack.id = entry.2 ∧ entry.2 ≠ intake.registration.id
  decided : ∀ reply ∈ intake.decider, ∃ moment result pool,
    meant link intake.registration.id reply = .decides result ∧
      this.ended = .done moment (result.map fun _ ↦ pool)
  timedOut : this.ended.TimedOut → intake.decider = none
  unsent : intake.sent.failed = true → intake.taken = []
  events : this.events =
    if intake.sent.failed then [] else Registrar.announced intake.registration :: intake.drops

end Intake

/-- Only the key of the link counts. -/
theorem Intake.Explains.of_key {link other : Link} {intake : Intake} {this : Try PoolError Pool}
    (h : intake.Explains link this) (hkey : link.key = other.key) : intake.Explains other this := by
  have hreceived (reply : Reply) : link.received reply = other.received reply := by
    unfold Link.received Link.unpack
    rw [hkey]
  obtain ⟨hmoment, hpayload, hforeign, hdecided, htimedOut, hunsent, hevents⟩ := h
  refine ⟨hmoment, hpayload, fun entry hentry ↦ ?_, fun reply hreply ↦ ?_, htimedOut, hunsent, hevents⟩
  · obtain ⟨ack, ⟨payload, hpayload, hack⟩, hid⟩ := hforeign entry hentry
    exact ⟨ack, ⟨payload, hreceived entry.1 ▸ hpayload, hack⟩, hid⟩
  · obtain ⟨moment, result, pool, hmeant, hended⟩ := hdecided reply hreply
    exact ⟨moment, result, pool, meant_congr hreceived _ _ ▸ hmeant, hended⟩

/-! ## One wait -/

/-- No reply says that time ran out. -/
theorem not_timedOut_of_meant {link : Link} {id : UInt64} {reply : Reply} {result : Except PoolError Unit}
    (h : meant link id reply = .decides result) (moment : Moment) :
    ¬ (Ended.done moment result).TimedOut := by
  have hmeans := means_meant link id reply
  rw [h] at hmeans
  cases hmeans with
  | unreceived | malformed | accepted | rejected => exact fun htimed ↦ htimed

/-- A wait takes acknowledgements of other registrations and, unless time runs out, the reply that decides;
all others stay in the queue. -/
structure Awaited.Takes (awaited : Awaited) (link : Link) (id : UInt64) (replies : List Reply)
    (dropped : List (Reply × UInt64)) (decider : Option Reply) : Prop where
  queue : replies = dropped.map Prod.fst ++ decider.toList ++ awaited.rest
  events : awaited.events = dropped.map fun entry ↦ stale id entry.2
  foreign : ∀ entry ∈ dropped, ∃ ack, Acknowledges link entry.1 ack ∧ ack.id = entry.2 ∧ entry.2 ≠ id
  decided : ∀ reply ∈ decider, ∃ moment result,
    meant link id reply = .decides result ∧ awaited.ended = .done moment result
  timedOut : awaited.ended.TimedOut → decider = none

theorem Awaited.takes_nothing (ended : Ended PoolError Unit) (link : Link) (id : UInt64) (replies : List Reply) :
    Awaited.Takes { ended, rest := replies } link id replies [] none :=
  ⟨rfl, rfl, List.forall_mem_nil _, nofun, fun _ ↦ rfl⟩

/-- A wait takes from the front of the queue what it passes over and what decides, and leaves the others
there. -/
theorem await_takes (link : Link) (window : Window) (now : Moment) (replies : List Reply) :
    ∃ dropped decider, (await link window now replies).Takes link window.id replies dropped decider := by
  fun_induction await link window now replies with
  | case1 | case4 => exact ⟨[], none, Awaited.takes_nothing _ _ _ _⟩
  | case2 now reply rest received hreached result hmeant =>
    refine ⟨[], some reply, rfl, rfl, List.forall_mem_nil _, ?_, fun htimed ↦ ?_⟩
    · rintro _ ⟨⟩
      exact ⟨_, result, hmeant, rfl⟩
    · exact absurd htimed (not_timedOut_of_meant hmeant _)
  | case3 now reply rest received hreached other hmeant later ih =>
    obtain ⟨dropped, decider, htakes⟩ := ih
    refine ⟨(reply, other) :: dropped, decider, ?_, ?_, ?_, htakes.decided, htakes.timedOut⟩
    · exact congrArg (reply :: ·) htakes.queue
    · exact congrArg (stale window.id other :: ·) htakes.events
    · exact List.forall_mem_cons.2 ⟨acknowledges_of_meant_other hmeant, htakes.foreign⟩

theorem Ended.timedOut_giving {ended : Ended PoolError Unit} {pool : Pool} :
    (ended.giving pool).TimedOut ↔ ended.TimedOut := by
  rcases ended with ⟨moment, error | done⟩ | _ | _
  · cases error <;> exact Iff.rfl
  all_goals exact Iff.rfl

namespace Registrar

variable (registrar : Registrar) (identity : Identity) (files : FileTree)

/-! ## One attempt -/

/-- What one attempt makes of the link and of the counter, and the entry that explains it. -/
structure Books (exchange : Exchange) (intake : Intake) (this : Try PoolError Pool) (after : Exchange) :
    Prop where
  registration : intake.registration = registrar.registration identity exchange.nextId
  explains : intake.Explains exchange.link this
  sent : after.link.sent = intake.sent :: exchange.link.sent
  queue : exchange.link.wire.replies = intake.taken ++ after.link.wire.replies
  nextId : after.nextId = exchange.nextId + 1
  key : after.link.key = exchange.link.key

/-- What sending keeps of the payload. -/
theorem sent_sending (now : Moment) (exchange : Exchange) :
    ∃ sent : Sent, sent.moment = now ∧ sent.payload = registrar.payload identity exchange ∧
      (sent.failed = false ↔ (registrar.sending identity files now exchange).1 = .ok ()) ∧
      (registrar.sending identity files now exchange).2.sent = sent :: exchange.link.sent := by
  refine ⟨_, rfl, rfl, ?_, rfl⟩
  unfold sending Link.send
  dsimp only
  cases exchange.link.sendFault? (exchange.link.pack (registrar.payload identity exchange)) <;> simp

/-- However an attempt goes, its payload is among the sent ones, and the counter has moved on. -/
theorem state_run (now deadline : Moment) (exchange : Exchange) :
    let after := ((registrar.attempt identity files).run now deadline exchange).state
    after.link.sent = (registrar.sending identity files now exchange).2.sent ∧
      after.nextId = exchange.nextId + 1 ∧ after.link.key = exchange.link.key := by
  rw [run_apply]
  split
  · exact ⟨rfl, rfl, rfl⟩
  · unfold awaitAck
    split <;> exact ⟨rfl, rfl, rfl⟩

variable {registrar identity files} {now closes : Moment} (deadline : Moment) {exchange : Exchange}

theorem idle_of_unsent {error : ConnectError}
    (hsent : (registrar.sending identity files now exchange).1 = .error error) :
    let attempted := (registrar.attempt identity files).run now deadline exchange
    attempted.events = [] ∧ attempted.state.link.wire.replies = exchange.link.wire.replies := by
  rw [run_apply, hsent]
  exact ⟨rfl, rfl⟩

theorem idle_of_untellable (hsent : (registrar.sending identity files now exchange).1 = .ok ())
    (hcloses : Clock.deadline? now registrar.ackTimeout = none) :
    let attempted := (registrar.attempt identity files).run now deadline exchange
    attempted.events = [announced (registrar.registration identity exchange.nextId)] ∧
      attempted.state.link.wire.replies = exchange.link.wire.replies := by
  rw [run_apply, hsent]
  dsimp only
  rw [awaitAck, hcloses]
  exact ⟨rfl, rfl⟩

/-- Behind a registration that was sent, the attempt reports this and then what the wait reports. -/
theorem waits_of_sent (hsent : (registrar.sending identity files now exchange).1 = .ok ())
    (hcloses : Clock.deadline? now registrar.ackTimeout = some closes) :
    let attempted := (registrar.attempt identity files).run now deadline exchange
    let awaited := registrar.awaiting now closes deadline exchange
    attempted.events = announced (registrar.registration identity exchange.nextId) :: awaited.events ∧
      attempted.state.link.wire.replies = awaited.rest := by
  rw [run_apply, hsent]
  dsimp only
  rw [awaitAck, hcloses]
  dsimp only
  rw [await_congr (registrar.received_sending identity files now exchange), replies_sending]
  exact ⟨rfl, rfl⟩

variable (registrar identity files)

/-- Whatever comes of an attempt, there is an entry of the ledger that explains it. -/
theorem attempt_books (now deadline : Moment) (exchange : Exchange) (pause : Option Span) :
    let attempted := (registrar.attempt identity files).run now deadline exchange
    ∃ intake, registrar.Books identity exchange intake
      ⟨now, attempted.ended, attempted.events, pause⟩ attempted.state := by
  intro attempted
  obtain ⟨sent, hmoment, hpayload, hfailed, hsending⟩ := registrar.sent_sending identity files now exchange
  obtain ⟨hsent, hnext, hkey⟩ := registrar.state_run identity files now deadline exchange
  rw [hsending] at hsent
  -- An attempt that is over before it waits has taken nothing.
  have hidle (hreplies : attempted.state.link.wire.replies = exchange.link.wire.replies)
      (hevents : attempted.events =
        if sent.failed then [] else [announced (registrar.registration identity exchange.nextId)]) :
      ∃ intake, registrar.Books identity exchange intake
        ⟨now, attempted.ended, attempted.events, pause⟩ attempted.state := by
    refine ⟨{ registration := _, sent }, rfl, ?_, hsent, hreplies.symm, hnext, hkey⟩
    exact ⟨hmoment, hpayload, nofun, nofun, fun _ ↦ rfl, fun _ ↦ rfl, hevents⟩
  cases hresult : (registrar.sending identity files now exchange).1 with
  | error error =>
    obtain ⟨hevents, hreplies⟩ := idle_of_unsent deadline hresult
    have hfault : sent.failed = true := by
      rw [← Bool.not_eq_false, hfailed, hresult]
      exact nofun
    exact hidle hreplies (by rw [if_pos hfault]; exact hevents)
  | ok done =>
    have hfault : ¬ sent.failed = true := by
      rw [Bool.not_eq_true, hfailed, hresult]
    cases hcloses : Clock.deadline? now registrar.ackTimeout with
    | none =>
      obtain ⟨hevents, hreplies⟩ := idle_of_untellable deadline hresult hcloses
      exact hidle hreplies (by rw [if_neg hfault]; exact hevents)
    | some closes =>
      obtain ⟨hevents, hreplies⟩ := waits_of_sent deadline hresult hcloses
      have hended := registrar.run_of_sent identity files deadline hresult hcloses
      obtain ⟨dropped, decider, htakes⟩ := await_takes exchange.link
        (registrar.window closes deadline exchange) now exchange.link.wire.replies
      refine ⟨{ registration := _, sent, dropped, decider }, rfl, ⟨hmoment, hpayload, htakes.foreign,
        fun reply hreply ↦ ?_, fun htimed ↦ htakes.timedOut ?_, fun h ↦ absurd h hfault, ?_⟩, hsent, ?_,
        hnext, hkey⟩
      · obtain ⟨moment, result, hmeant, hdone⟩ := htakes.decided reply hreply
        exact ⟨moment, result, registrar.pool identity exchange, hmeant,
          hended.trans (Ended.giving_eq_done_iff.2 ⟨result, hdone, rfl⟩)⟩
      · rw [← Ended.timedOut_giving]
        exact hended ▸ htimed
      · rw [if_neg hfault]
        exact hevents.trans (congrArg (announced _ :: ·) htakes.events)
      · rw [hreplies]
        exact htakes.queue

/-! ## All attempts -/

variable {middle after : Exchange} {ledger : List Intake} {intake : Intake} {tries : List (Try PoolError Pool)}
  {this : Try PoolError Pool}

/-- The ledger accounts for the attempts that lead from one exchange to another. -/
structure Ledger (exchange : Exchange) (ledger : List Intake) (tries : List (Try PoolError Pool))
    (after : Exchange) : Prop where
  entries : List.Forall₂ (Intake.Explains exchange.link) ledger tries
  registrations : ledger.map (·.registration) =
    (List.range ledger.length).map fun n ↦ registrar.registration identity (exchange.nextId + .ofNat n)
  sent : after.link.sent = (ledger.map (·.sent)).reverse ++ exchange.link.sent
  queue : exchange.link.wire.replies = ledger.flatMap Intake.taken ++ after.link.wire.replies
  nextId : after.nextId = exchange.nextId + .ofNat ledger.length
  key : after.link.key = exchange.link.key

theorem ledger_nil (exchange : Exchange) : registrar.Ledger identity exchange [] [] exchange where
  entries := .nil
  registrations := rfl
  sent := rfl
  queue := rfl
  nextId := (UInt64.add_zero _).symm
  key := rfl

variable {registrar identity}

/-- One more attempt is one more entry. -/
theorem Ledger.concat (h : registrar.Ledger identity exchange ledger tries middle)
    (hbooks : registrar.Books identity middle intake this after) :
    registrar.Ledger identity exchange (ledger ++ [intake]) (tries ++ [this]) after where
  entries := List.rel_append h.entries (.cons (hbooks.explains.of_key h.key) .nil)
  registrations := by
    rw [List.map_append, h.registrations, List.length_append, List.length_singleton, List.range_succ,
      List.map_append, List.map_singleton, List.map_singleton, hbooks.registration, h.nextId]
  sent := by
    rw [hbooks.sent, h.sent, List.map_append, List.reverse_append]
    rfl
  queue := by
    rw [h.queue, hbooks.queue, List.flatMap_append, List.flatMap_singleton, List.append_assoc]
  nextId := by
    rw [hbooks.nextId, h.nextId, List.length_append, List.length_singleton, UInt64.ofNat_add, UInt64.add_assoc]
    rfl
  key := hbooks.key.trans h.key

/-- Every sequence of registrations has a ledger. -/
theorem exists_ledger (registrar : Registrar) (identity : Identity) (files : FileTree) (backoff : Backoff)
    (draws : Nat → Float) (start : Moment) (fuel : Nat) (exchange : Exchange) :
    let trial := (registrar.register identity files backoff draws start fuel exchange).trial
    ∃ ledger, registrar.Ledger identity exchange ledger trial.tries trial.state := by
  apply Retry.run_tries (P := fun tries state ↦ ∃ ledger, registrar.Ledger identity exchange ledger tries state)
  · exact ⟨[], registrar.ledger_nil identity exchange⟩
  · rintro tries state moment pause ⟨ledger, hledger⟩
    obtain ⟨intake, hbooks⟩ := registrar.attempt_books identity files moment _ state pause
    exact ⟨ledger ++ [intake], hledger.concat hbooks⟩

/-! ## The log -/

/-- The event reports that a reply was passed over. -/
def tellsOfDrop (event : Log.Event) : Bool := event.message == "Dropping stale registration reply"

theorem filter_drops (intake : Intake) : intake.drops.filter tellsOfDrop = intake.drops := by
  rw [List.filter_eq_self]
  intro event hevent
  obtain ⟨entry, -, rfl⟩ := List.mem_map.1 hevent
  rfl

/-- What is reported about an attempt tells of the replies in its entry, each of them once. -/
theorem filter_eventsOf {link : Link} (h : intake.Explains link this) (attempt : Attempt σ PoolError Pool)
    (count : Nat) : (attempt.eventsOf count this).filter tellsOfDrop = intake.drops := by
  have hown : this.events.filter tellsOfDrop = intake.drops := by
    rw [h.events]
    cases hfailed : intake.sent.failed with
    | true =>
      have htaken : intake.dropped = [] := by
        simpa using (List.append_eq_nil_iff.1 (h.unsent hfailed)).1
      rw [if_pos rfl, Intake.drops, htaken]
      rfl
    | false =>
      rw [if_neg Bool.false_ne_true, List.filter_cons_of_neg (by simp [tellsOfDrop, announced]), filter_drops]
  rw [Attempt.eventsOf, List.filter_append, hown, List.append_right_eq_self, List.filter_eq_nil_iff]
  split
  · rintro event (_ | ⟨_, ⟨⟩⟩)
    simp [tellsOfDrop, Attempt.retrying]
  · split
    · rintro event (_ | ⟨_, ⟨⟩⟩)
      simp [tellsOfDrop, Attempt.recovered]
    · exact nofun
  · exact nofun

/-- What a sequence reports about replies that were passed over is what its entries tell, in order. -/
theorem filter_report {link : Link} (h : List.Forall₂ (Intake.Explains link) ledger tries)
    (attempt : Attempt σ PoolError Pool) :
    (attempt.report tries).filter tellsOfDrop = ledger.flatMap Intake.drops := by
  unfold Attempt.report
  generalize 1 = count
  induction h generalizing count with
  | nil => rfl
  | cons hhead _ ih =>
    rw [List.zipIdx_cons, List.flatMap_cons, List.filter_append, filter_eventsOf hhead, ih, List.flatMap_cons]

/-! ## The whole sequence -/

/-- The identifiers of the attempts follow one another as long as the counter does not run over. -/
theorem Ledger.ids (h : registrar.Ledger identity exchange ledger tries after)
    (hcount : exchange.nextId.toNat + ledger.length ≤ UInt64.size) :
    ledger.map (·.registration.id.toNat) = List.range' exchange.nextId.toNat ledger.length := by
  have hids : ledger.map (·.registration.id.toNat) = (ledger.map (·.registration)).map (·.id.toNat) := by
    rw [List.map_map]
    rfl
  rw [hids, h.registrations, List.map_map, List.range'_eq_map_range, List.map_inj_left]
  intro n hn
  have hless : exchange.nextId.toNat + n < UInt64.size :=
    (Nat.add_lt_add_left (List.mem_range.1 hn) _).trans_le hcount
  change (exchange.nextId + .ofNat n).toNat = _
  rw [UInt64.toNat_add, UInt64.toNat_ofNat', Nat.add_mod_mod]
  exact Nat.mod_eq_of_lt hless

/-- The attempts of a sequence register under consecutive identifiers, and all else in their registrations
is the same. What they take from the replies is what the queue begins with, each reply once and in order:
acknowledgements of other registrations, each reported once, and what decides them. An attempt on which
time runs out takes nothing more, and one that cannot send takes nothing. -/
theorem register_accounted (registrar : Registrar) (identity : Identity) (files : FileTree) (backoff : Backoff)
    (draws : Nat → Float) (start : Moment) (fuel : Nat) (exchange : Exchange) :
    let registering := registrar.register identity files backoff draws start fuel exchange
    let tries := registering.trial.tries
    let after := registering.trial.state
    exchange.nextId.toNat + tries.length ≤ UInt64.size →
      ∃ ledger version queues, List.Forall₂ (Intake.Explains exchange.link) ledger tries ∧
        ledger.map (·.registration.id.toNat) = List.range' exchange.nextId.toNat tries.length ∧
        (∀ intake ∈ ledger, intake.registration =
          ⟨intake.registration.id, identity.systemId, identity.clusterId, version, queues⟩) ∧
        after.link.sent = (ledger.map (·.sent)).reverse ++ exchange.link.sent ∧
        exchange.link.wire.replies = ledger.flatMap Intake.taken ++ after.link.wire.replies ∧
        registering.events.filter tellsOfDrop = ledger.flatMap Intake.drops := by
  intro registering tries after hcount
  obtain ⟨ledger, hledger⟩ :=
    exists_ledger registrar identity files backoff draws start fuel exchange
  have hlength : ledger.length = tries.length := hledger.entries.length_eq
  rw [← hlength] at hcount ⊢
  refine ⟨ledger, registrar.agentVersion, queuesOf identity.systemId registrar.extraQueues, hledger.entries,
    hledger.ids hcount, ?_, hledger.sent, hledger.queue, ?_⟩
  · intro intake hintake
    have hregistration := List.mem_map_of_mem (f := Intake.registration) hintake
    rw [hledger.registrations] at hregistration
    obtain ⟨n, -, hn⟩ := List.mem_map.1 hregistration
    rw [← hn]
    rfl
  · -- What is reported of a pool tells of no reply.
    obtain ⟨success, hevents, hsilent⟩ : ∃ success,
        registering.events = (registrar.attempt identity files).report tries ++ success ∧
          success.filter tellsOfDrop = [] := by
      refine ⟨_, rfl, ?_⟩
      split
      · simp [tellsOfDrop, created]
      · rfl
    rw [hevents, List.filter_append, filter_report hledger.entries, hsilent, List.append_nil]

/-- The answer to another agent, a failure of the transport, and the answers to the first and to the third
attempt; nothing can be sent in the second one. -/
def crowded : Exchange where
  nextId := 7
  link :=
    { target := "10.0.0.1:5271"
      key := none
      wire :=
        { replies := [⟨2, .ok (Ack.mk 3 true none).toBytes⟩, ⟨5, .error .emptyMessage⟩,
            ⟨40, .ok (Ack.mk 7 true none).toBytes⟩, ⟨70, .ok (Ack.mk 9 true none).toBytes⟩]
          sendFaults := [none, some (.send "down")] } }

def crowdedRun : Registering :=
  ({} : Registrar).register ⟨"node-1", ""⟩ {} { initialInterval := .ofMillis 20, randomization := 0 }
    (fun _ ↦ 0) 0 5 crowded

theorem crowdedRun_accounted :
    crowdedRun.trial.tries.length = 3 ∧ crowded.nextId.toNat + crowdedRun.trial.tries.length ≤ UInt64.size ∧
      ∃ ledger, List.Forall₂ (Intake.Explains crowded.link) ledger crowdedRun.trial.tries ∧
        ledger.map (·.registration.id.toNat) = [7, 8, 9] ∧
        crowded.link.wire.replies =
          ledger.flatMap Intake.taken ++ crowdedRun.trial.state.link.wire.replies ∧
        crowdedRun.trial.state.link.wire.replies.length = 0 := by
  have htries : crowdedRun.trial.tries.length = 3 := by decide +kernel
  have hcount : crowded.nextId.toNat + crowdedRun.trial.tries.length ≤ UInt64.size := by
    rw [htries]
    decide
  obtain ⟨ledger, version, queues, hentries, hids, -, -, hqueue, -⟩ :=
    register_accounted {} ⟨"node-1", ""⟩ {} { initialInterval := .ofMillis 20, randomization := 0 }
      (fun _ ↦ 0) 0 5 crowded hcount
  change _ = List.range' 7 crowdedRun.trial.tries.length at hids
  rw [htries] at hids
  exact ⟨htries, hcount, ledger, hentries, hids, hqueue, by decide +kernel⟩

end Registrar

end FleetAgent.Control
