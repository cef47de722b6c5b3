import FleetAgent.Control.Pool
import FleetAgent.Proofs.RetrySteps

/-!
# Waiting for the acknowledgement

A registration is decided by the first reply that is not the acknowledgement of another one, provided
that this reply is received before the window closes. How many acknowledgements of other registrations
come before it, and when, makes no difference to the window.
-/

namespace FleetAgent.Control

/-- The reply is received as a well-formed acknowledgement. -/
def Acknowledges (link : Link) (reply : Reply) (ack : Ack) : Prop :=
  ∃ payload, link.received reply = .ok payload ∧ Ack.ofBytes payload = .ok ack

/-- The reply acknowledges another registration. -/
def Foreign (link : Link) (id : UInt64) (reply : Reply) : Prop :=
  ∃ ack, Acknowledges link reply ack ∧ ack.id ≠ id

/-- When the last one of the replies is received by someone who waits for one after the other. -/
def arrival (now : Moment) (replies : List Reply) : Moment :=
  replies.foldl (fun moment reply ↦ max moment reply.moment) now

/-- The reply is the first one that acknowledges no other registration, and is received at the
moment. -/
def DecidedBy (link : Link) (id : UInt64) (now : Moment) (replies : List Reply) (reply : Reply)
    (moment : Moment) : Prop :=
  ∃ foreign rest, replies = foreign ++ reply :: rest ∧ (∀ other ∈ foreign, Foreign link id other) ∧
    ¬ Foreign link id reply ∧ moment = arrival now (foreign ++ [reply])

/-! ## What a reply means -/

section

variable {link : Link} {id : UInt64} {reply : Reply}

theorem meant_of_foreign (h : Foreign link id reply) : ∃ other, meant link id reply = .other other := by
  obtain ⟨ack, ⟨payload, hreceived, hack⟩, hid⟩ := h
  exact ⟨ack.id, by simp [meant, hreceived, hack, hid]⟩

theorem meant_of_unreceived {error : ConnectError} (id : UInt64) (h : link.received reply = .error error) :
    meant link id reply = .decides (.error (.transport error)) := by
  simp [meant, h]

theorem meant_of_malformed {payload : Json.Bytes} {fault : Json.Malformed} (id : UInt64)
    (hreceived : link.received reply = .ok payload) (hfault : Ack.ofBytes payload = .error fault) :
    meant link id reply = .decides (.error (.malformed fault)) := by
  simp [meant, hreceived, hfault]

/-- The acknowledgement of the registration itself decides by its verdict; a missing reason has words of its
own. -/
theorem meant_of_own {ack : Ack} (h : Acknowledges link reply ack) (hid : ack.id = id) :
    meant link id reply = .decides
      (if ack.accepted then .ok () else .error (.rejected (ack.reason.getD "no reason given"))) := by
  obtain ⟨payload, hreceived, hack⟩ := h
  cases haccepted : ack.accepted <;> simp [meant, hreceived, hack, hid, haccepted]

/-- What a reply means, one case for each way in which it may come. -/
inductive Means (link : Link) (id : UInt64) (reply : Reply) : Meant → Prop where
  | unreceived {error : ConnectError} (hreceived : link.received reply = .error error) :
      Means link id reply (.decides (.error (.transport error)))
  | malformed {payload : Json.Bytes} {fault : Json.Malformed} (hreceived : link.received reply = .ok payload)
      (hfault : Ack.ofBytes payload = .error fault) :
      Means link id reply (.decides (.error (.malformed fault)))
  | foreign {ack : Ack} (hack : Acknowledges link reply ack) (hid : ack.id ≠ id) :
      Means link id reply (.other ack.id)
  | accepted {ack : Ack} (hack : Acknowledges link reply ack) (hid : ack.id = id)
      (haccepted : ack.accepted = true) : Means link id reply (.decides (.ok ()))
  | rejected {ack : Ack} (hack : Acknowledges link reply ack) (hid : ack.id = id)
      (haccepted : ¬ ack.accepted = true) :
      Means link id reply (.decides (.error (.rejected (ack.reason.getD "no reason given"))))

theorem means_meant (link : Link) (id : UInt64) (reply : Reply) :
    Means link id reply (meant link id reply) := by
  fun_cases meant link id reply with
  | case1 error hreceived => exact .unreceived hreceived
  | case2 payload hreceived fault hfault => exact .malformed hreceived hfault
  | case3 payload hreceived ack hack hid => exact .foreign ⟨payload, hreceived, hack⟩ hid
  | case4 payload hreceived ack hack hid haccepted =>
    exact .accepted ⟨payload, hreceived, hack⟩ (not_not.1 hid) haccepted
  | case5 payload hreceived ack hack hid haccepted =>
    exact .rejected ⟨payload, hreceived, hack⟩ (not_not.1 hid) haccepted

/-- Whatever does not acknowledge another registration decides this one. -/
theorem meant_of_not_foreign (h : ¬ Foreign link id reply) : ∃ result, meant link id reply = .decides result := by
  have hmeans := means_meant link id reply
  generalize meant link id reply = judged at hmeans ⊢
  cases hmeans with
  | unreceived | malformed | accepted | rejected => exact ⟨_, rfl⟩
  | foreign hack hid => exact absurd ⟨_, hack, hid⟩ h

/-- A reply that decides nothing is a well-formed acknowledgement of another registration. -/
theorem acknowledges_of_meant_other {other : UInt64} (h : meant link id reply = .other other) :
    ∃ ack, Acknowledges link reply ack ∧ ack.id = other ∧ other ≠ id := by
  have hmeans := means_meant link id reply
  rw [h] at hmeans
  cases hmeans with
  | foreign hack hid => exact ⟨_, hack, rfl, hid⟩

theorem foreign_of_meant_other {other : UInt64} (h : meant link id reply = .other other) :
    Foreign link id reply := by
  obtain ⟨ack, hack, rfl, hid⟩ := acknowledges_of_meant_other h
  exact ⟨ack, hack, hid⟩

theorem not_foreign_of_meant {result : Except PoolError Unit} (h : meant link id reply = .decides result) :
    ¬ Foreign link id reply := by
  intro hforeign
  obtain ⟨other, hother⟩ := meant_of_foreign hforeign
  rw [h] at hother
  cases hother

/-- Only an acknowledgement of the registration that accepts it decides for success. -/
theorem meant_eq_success_iff : meant link id reply = .decides (.ok ()) ↔
    ∃ ack, Acknowledges link reply ack ∧ ack.id = id ∧ ack.accepted = true := by
  constructor
  · intro h
    have hmeans := means_meant link id reply
    rw [h] at hmeans
    cases hmeans with
    | accepted hack hid haccepted => exact ⟨_, hack, hid, haccepted⟩
  · rintro ⟨ack, hack, hid, haccepted⟩
    rw [meant_of_own hack hid, if_pos haccepted]

end

/-! ## The reply that decides -/

/-- An answer to another registration changes nothing but when those behind it can be received. -/
theorem decidedBy_foreign_cons {link : Link} {id : UInt64} {now moment : Moment} {first reply : Reply}
    {rest : List Reply} (hforeign : Foreign link id first) :
    DecidedBy link id now (first :: rest) reply moment ↔
      DecidedBy link id (max now first.moment) rest reply moment := by
  constructor
  · rintro ⟨_ | ⟨head, foreign⟩, after, hsplit, hall, hreply, hmoment⟩
    · obtain ⟨rfl, rfl⟩ := List.cons_eq_cons.1 hsplit
      exact absurd hforeign hreply
    · obtain ⟨rfl, rfl⟩ := List.cons_eq_cons.1 hsplit
      exact ⟨foreign, after, rfl, fun other h ↦ hall other (.tail _ h), hreply, hmoment⟩
  · rintro ⟨foreign, after, rfl, hall, hreply, hmoment⟩
    refine ⟨first :: foreign, after, rfl, ?_, hreply, hmoment⟩
    rintro other (_ | ⟨_, h⟩)
    · exact hforeign
    · exact hall other h

/-- A reply that answers no other registration decides as soon as it is received. -/
theorem decidedBy_decider_cons {link : Link} {id : UInt64} {now moment : Moment} {first reply : Reply}
    {rest : List Reply} (hfirst : ¬ Foreign link id first) :
    DecidedBy link id now (first :: rest) reply moment ↔
      reply = first ∧ moment = max now first.moment := by
  constructor
  · rintro ⟨_ | ⟨head, foreign⟩, after, hsplit, hall, hreply, hmoment⟩
    · obtain ⟨rfl, rfl⟩ := List.cons_eq_cons.1 hsplit
      exact ⟨rfl, hmoment⟩
    · obtain ⟨rfl, rfl⟩ := List.cons_eq_cons.1 hsplit
      exact absurd (hall first (.head _)) hfirst
  · rintro ⟨rfl, rfl⟩
    exact ⟨[], rest, rfl, by simp, hfirst, rfl⟩

theorem le_arrival (now : Moment) (replies : List Reply) : now ≤ arrival now replies := by
  induction replies generalizing now with
  | nil => exact le_rfl
  | cons reply rest ih => exact (le_max_left _ _).trans (ih _)

theorem DecidedBy.le_moment {link : Link} {id : UInt64} {now moment : Moment} {replies : List Reply}
    {reply : Reply} (h : DecidedBy link id now replies reply moment) : now ≤ moment := by
  obtain ⟨foreign, rest, -, -, -, rfl⟩ := h
  exact le_arrival now _

theorem DecidedBy.first_le {link : Link} {id : UInt64} {now moment : Moment} {first reply : Reply}
    {rest : List Reply} (h : DecidedBy link id now (first :: rest) reply moment) :
    max now first.moment ≤ moment := by
  by_cases hforeign : Foreign link id first
  · exact ((decidedBy_foreign_cons hforeign).1 h).le_moment
  · exact ((decidedBy_decider_cons hforeign).1 h).2.ge

theorem Acknowledges.not_foreign {link : Link} {id : UInt64} {reply : Reply} {ack : Ack}
    (h : Acknowledges link reply ack) (hid : ack.id = id) : ¬ Foreign link id reply := by
  rintro ⟨other, hother, hne⟩
  obtain ⟨payload, hreceived, hack⟩ := h
  obtain ⟨payload', hreceived', hack'⟩ := hother
  rw [hreceived] at hreceived'
  obtain rfl := Except.ok.inj hreceived'
  rw [hack] at hack'
  obtain rfl := Except.ok.inj hack'
  exact hne hid

/-- A reply that decides and is an acknowledgement is one of the registration itself. -/
theorem DecidedBy.id_eq {link : Link} {id : UInt64} {now moment : Moment} {replies : List Reply}
    {reply : Reply} {ack : Ack} (h : DecidedBy link id now replies reply moment)
    (hack : Acknowledges link reply ack) : ack.id = id := by
  obtain ⟨foreign, rest, -, -, hown, -⟩ := h
  by_contra hid
  exact hown ⟨ack, hack, hid⟩

/-! ## The window -/

namespace Window

variable {window : Window} {now moment : Moment}

theorem reaches_iff : window.reaches now moment = true ↔
    moment ≤ max now window.closes ∧ moment ≤ max now window.deadline := by
  simp [reaches]

theorem le_closes_of_reaches (hnow : now ≤ window.closes) (hreached : window.reaches now moment = true) :
    moment ≤ window.closes :=
  (reaches_iff.1 hreached).1.trans (max_le hnow le_rfl)

/-- A wait of which the window closes by the deadline ends when it closes, with the time that there was for
the answer. -/
theorem expire_eq_done_iff {result : Except PoolError Unit} : window.expire now = .done moment result ↔
    max now window.closes ≤ max now window.deadline ∧ moment = max now window.closes ∧
      result = .error (.ackTimeout window.timeout) := by
  unfold expire
  split
  · next hcloses => simp [hcloses, eq_comm]
  · next hlater => simp [hlater]

/-- A wait is given up when the deadline comes before the window closes. -/
theorem expire_eq_cut_iff :
    window.expire now = .cut ↔ max now window.deadline < max now window.closes := by
  unfold expire
  split
  · next hcloses => exact ⟨nofun, fun hlater ↦ absurd hcloses hlater.not_ge⟩
  · next hlater => exact ⟨fun _ ↦ not_le.1 hlater, fun _ ↦ rfl⟩

theorem expire_timely {result : Except PoolError Unit} (h : window.expire now = .done moment result) :
    now ≤ moment ∧ moment ≤ max now window.deadline := by
  obtain ⟨hcloses, rfl, -⟩ := expire_eq_done_iff.1 h
  exact ⟨le_max_left _ _, hcloses⟩

/-- An open window in which nothing comes is waited out, unless the whole attempt is given up before. -/
theorem expire_of_ne_cut (hnow : now ≤ window.closes) (hkept : window.expire now ≠ .cut) :
    window.expire now = .done window.closes (.error (.ackTimeout window.timeout)) ∧
      window.closes ≤ max now window.deadline := by
  have hcloses := not_lt.1 fun hlater ↦ hkept (expire_eq_cut_iff.2 hlater)
  have hlast : max now window.closes = window.closes := max_eq_right hnow
  exact ⟨expire_eq_done_iff.2 ⟨hcloses, hlast.symm, rfl⟩, hlast ▸ hcloses⟩

theorem expire_ne_cut (hcloses : window.closes ≤ window.deadline) : window.expire now ≠ .cut := by
  intro hcut
  have hlast : max now window.closes ≤ max now window.deadline :=
    max_le (le_max_left _ _) (hcloses.trans (le_max_right _ _))
  exact (expire_eq_cut_iff.1 hcut).not_ge hlast

end Window

/-! ## The wait -/

/-- A wait that ends with a result ends within its window. -/
theorem await_timely (link : Link) (window : Window) (now moment : Moment) (replies : List Reply)
    (result : Except PoolError Unit) (h : (await link window now replies).ended = .done moment result) :
    now ≤ moment ∧ moment ≤ max now window.deadline := by
  fun_induction await link window now replies with
  | case1 now => exact Window.expire_timely h
  | case2 now reply rest received hreached decision hmeant =>
    obtain ⟨rfl, -⟩ := Ended.done.inj h
    exact ⟨le_max_left _ _, (Window.reaches_iff.1 hreached).2⟩
  | case3 now reply rest received hreached id hmeant later ih =>
    obtain ⟨hlow, hhigh⟩ := ih h
    have hwithin := (Window.reaches_iff.1 hreached).2
    exact ⟨(le_max_left _ _).trans hlow, hhigh.trans (max_le hwithin (le_max_right _ _))⟩
  | case4 now reply rest received hreached => exact Window.expire_timely h

/-- Unless the whole attempt is given up, the reply that decides does so when it is received in the
window, and otherwise the window closes without an answer. -/
theorem await_ended (link : Link) (window : Window) (now : Moment) (replies : List Reply)
    (hnow : now ≤ window.closes) (hkept : (await link window now replies).ended ≠ .cut) :
    (∀ reply moment result, DecidedBy link window.id now replies reply moment →
      moment ≤ window.closes → meant link window.id reply = .decides result →
      (await link window now replies).ended = .done moment result) ∧
    ((¬ ∃ reply moment, DecidedBy link window.id now replies reply moment ∧ moment ≤ window.closes) →
      (await link window now replies).ended =
        .done window.closes (.error (.ackTimeout window.timeout))) := by
  fun_induction await link window now replies with
  | case1 now =>
    refine ⟨?_, fun _ ↦ (Window.expire_of_ne_cut hnow hkept).1⟩
    rintro reply moment result ⟨foreign, rest, hsplit, -⟩
    simp at hsplit
  | case2 now first rest received hreached decision hmeant =>
    have hwithin := Window.le_closes_of_reaches hnow hreached
    have hown : ¬ Foreign link window.id first := not_foreign_of_meant hmeant
    simp only [decidedBy_decider_cons hown]
    refine ⟨?_, fun hnone ↦ absurd ⟨first, _, ⟨rfl, rfl⟩, hwithin⟩ hnone⟩
    rintro reply moment result ⟨rfl, rfl⟩ - hresult
    rw [hmeant] at hresult
    rw [Meant.decides.inj hresult]
  | case3 now first rest received hreached id hmeant later ih =>
    have hforeign : Foreign link window.id first := foreign_of_meant_other hmeant
    simp only [decidedBy_foreign_cons hforeign]
    exact ih (Window.le_closes_of_reaches hnow hreached) hkept
  | case4 now first rest received hreached =>
    obtain ⟨hended, hcloses⟩ := Window.expire_of_ne_cut hnow hkept
    refine ⟨?_, fun _ ↦ hended⟩
    -- The first reply comes too late, so whatever decides comes too late as well.
    intro reply moment result hdecided hmoment
    have hfirst : received ≤ window.closes := hdecided.first_le.trans hmoment
    exact absurd (Window.reaches_iff.2 ⟨hfirst.trans (le_max_right _ _), hfirst.trans hcloses⟩) hreached

/-- A window that closes no later than the whole attempt has to end is always waited out. -/
theorem await_ne_cut (link : Link) (window : Window) (now : Moment) (replies : List Reply)
    (hnow : now ≤ window.closes) (hcloses : window.closes ≤ window.deadline) :
    (await link window now replies).ended ≠ .cut := by
  fun_induction await link window now replies with
  | case1 | case4 => exact Window.expire_ne_cut hcloses
  | case2 => exact nofun
  | case3 now reply rest received hreached id hmeant later ih =>
    exact ih (Window.le_closes_of_reaches hnow hreached)

theorem meant_congr {link other : Link} (h : ∀ reply, link.received reply = other.received reply)
    (id : UInt64) (reply : Reply) : meant link id reply = meant other id reply := by
  unfold meant
  rw [h reply]

/-- Two links on which every reply comes to the same wait in the same way. -/
theorem await_congr {link other : Link} (h : ∀ reply, link.received reply = other.received reply)
    (window : Window) (now : Moment) (replies : List Reply) :
    await link window now replies = await other window now replies := by
  induction replies generalizing now with
  | nil => rfl
  | cons reply rest ih => simp only [await, meant_congr h, ih]

/-! ## One registration -/

/-- The end of a wait as the end of an attempt to register. -/
def Ended.giving (pool : Pool) : Ended PoolError Unit → Ended PoolError Pool
  | .done moment result => .done moment (result.map fun _ ↦ pool)
  | .cut => .cut
  | .broken => .broken

theorem Ended.giving_eq_done_iff {ended : Ended PoolError Unit} {pool : Pool} {moment : Moment}
    {result : Except PoolError Pool} : ended.giving pool = .done moment result ↔
      ∃ verdict, ended = .done moment verdict ∧ result = verdict.map fun _ ↦ pool := by
  cases ended with
  | done at' verdict => simp [giving, eq_comm]
  | cut => simp [giving]
  | broken => simp [giving]

theorem Ended.giving_eq_cut_iff {ended : Ended PoolError Unit} {pool : Pool} :
    ended.giving pool = .cut ↔ ended = .cut := by
  cases ended <;> simp [giving]

namespace Registrar

variable (registrar : Registrar) (identity : Identity) (files : FileTree)

def payload (exchange : Exchange) : Json.Bytes :=
  (registrar.registration identity exchange.nextId).toBytes

def sending (now : Moment) (exchange : Exchange) : Except ConnectError Unit × Link :=
  exchange.link.send now files (registrar.payload identity exchange)

def pool (exchange : Exchange) : Pool :=
  ⟨identity.systemId, queuesOf identity.systemId registrar.extraQueues, exchange.link.target⟩

def window (closes deadline : Moment) (exchange : Exchange) : Window :=
  ⟨exchange.nextId, registrar.ackTimeout, closes, deadline⟩

def awaiting (now closes deadline : Moment) (exchange : Exchange) : Awaited :=
  await exchange.link (registrar.window closes deadline exchange) now exchange.link.wire.replies

/-- One attempt, by what sending comes to and by whether the clock can tell when the window closes. -/
theorem run_apply (now deadline : Moment) (exchange : Exchange) :
    (registrar.attempt identity files).run now deadline exchange =
      match (registrar.sending identity files now exchange).1 with
      | .error error =>
        { ended := .done now (.error (.transport error))
          state := ⟨(registrar.sending identity files now exchange).2, exchange.nextId + 1⟩ }
      | .ok _ =>
        registrar.awaitAck (registrar.registration identity exchange.nextId) now deadline
          ⟨(registrar.sending identity files now exchange).2, exchange.nextId + 1⟩ := rfl

theorem awaitAck_ended (registration : Registration) {now closes : Moment} (deadline : Moment)
    (exchange : Exchange) (hcloses : Clock.deadline? now registrar.ackTimeout = some closes) :
    (registrar.awaitAck registration now deadline exchange).ended =
      (await exchange.link ⟨registration.id, registrar.ackTimeout, closes, deadline⟩ now
        exchange.link.wire.replies).ended.giving
          ⟨registration.systemId, registration.queues, exchange.link.target⟩ := by
  rw [awaitAck, hcloses]
  dsimp only
  rcases (await _ _ now _).ended with ⟨at', ⟨⟩ | ⟨⟩⟩ | _ | _ <;> rfl

/-- Sending takes a fault from the wire, and the replies come in as before. -/
theorem received_sending (now : Moment) (exchange : Exchange) (reply : Reply) :
    (registrar.sending identity files now exchange).2.received reply = exchange.link.received reply := rfl

theorem replies_sending (now : Moment) (exchange : Exchange) :
    (registrar.sending identity files now exchange).2.wire.replies = exchange.link.wire.replies := rfl

/-- Every attempt sends one registration. -/
theorem sent_run (now deadline : Moment) (exchange : Exchange) :
    ∃ sent : Sent, sent.moment = now ∧ sent.payload = registrar.payload identity exchange ∧
      ((registrar.attempt identity files).run now deadline exchange).state.link.sent =
        sent :: exchange.link.sent := by
  rw [run_apply]
  split
  · exact ⟨_, rfl, rfl, rfl⟩
  · unfold awaitAck
    split <;> exact ⟨_, rfl, rfl, rfl⟩

theorem run_of_unsent {now : Moment} {exchange : Exchange} {error : ConnectError} (deadline : Moment)
    (hsent : (registrar.sending identity files now exchange).1 = .error error) :
    ((registrar.attempt identity files).run now deadline exchange).ended =
      .done now (.error (.transport error)) := by
  rw [run_apply, hsent]

/-- The agent breaks where the clock cannot tell when the window closes. -/
theorem run_of_untellable {now : Moment} {exchange : Exchange} (deadline : Moment)
    (hsent : (registrar.sending identity files now exchange).1 = .ok ())
    (hcloses : Clock.deadline? now registrar.ackTimeout = none) :
    ((registrar.attempt identity files).run now deadline exchange).ended = .broken := by
  rw [run_apply, hsent]
  dsimp only
  rw [awaitAck, hcloses]

theorem run_of_sent {now closes : Moment} {exchange : Exchange} (deadline : Moment)
    (hsent : (registrar.sending identity files now exchange).1 = .ok ())
    (hcloses : Clock.deadline? now registrar.ackTimeout = some closes) :
    ((registrar.attempt identity files).run now deadline exchange).ended =
      (registrar.awaiting now closes deadline exchange).ended.giving
        (registrar.pool identity exchange) := by
  rw [run_apply, hsent]
  dsimp only
  rw [awaitAck_ended registrar _ deadline _ hcloses,
    await_congr (registrar.received_sending identity files now exchange),
    replies_sending]
  rfl

/-- No attempt to register goes on behind its deadline. -/
theorem attempt_timely : (registrar.attempt identity files).Timely := by
  intro now deadline exchange moment result h
  cases hsent : (registrar.sending identity files now exchange).1 with
  | error error =>
    rw [registrar.run_of_unsent identity files deadline hsent] at h
    obtain ⟨rfl, -⟩ := Ended.done.inj h
    exact ⟨le_rfl, le_max_left _ _⟩
  | ok sent =>
    cases hcloses : Clock.deadline? now registrar.ackTimeout with
    | none =>
      rw [registrar.run_of_untellable identity files deadline hsent hcloses] at h
      cases h
    | some closes =>
      rw [registrar.run_of_sent identity files deadline hsent hcloses, Ended.giving_eq_done_iff] at h
      obtain ⟨verdict, hended, -⟩ := h
      exact await_timely _ _ _ _ _ _ hended

/-- A registration that was sent is decided by the first reply that acknowledges no other one, if that
is received before the window closes, and it runs out of time otherwise. -/
theorem decided_by_own_acknowledgement (now deadline closes : Moment) (exchange : Exchange)
    (hsent : (registrar.sending identity files now exchange).1 = .ok ())
    (hfits : Clock.canTell now registrar.ackTimeout)
    (hcloses : Clock.FirstAfter now registrar.ackTimeout closes)
    (hkept : ((registrar.attempt identity files).run now deadline exchange).ended ≠ .cut) :
    let link := exchange.link
    let ended := ((registrar.attempt identity files).run now deadline exchange).ended
    let decides (reply : Reply) (moment : Moment) :=
      DecidedBy link exchange.nextId now link.wire.replies reply moment ∧ moment ≤ closes
    ((∃ moment pool, ended = .done moment (.ok pool)) ↔
      ∃ foreign own rest ack, link.wire.replies = foreign ++ own :: rest ∧
        (∀ other ∈ foreign, Foreign link exchange.nextId other) ∧
        Acknowledges link own ack ∧ ack.id = exchange.nextId ∧ ack.accepted = true ∧
        arrival now (foreign ++ [own]) ≤ closes) ∧
    (∀ reply moment, decides reply moment →
      (∀ ack, Acknowledges link reply ack → ack.accepted = true →
        ended = .done moment (.ok (registrar.pool identity exchange))) ∧
      (∀ ack, Acknowledges link reply ack → ack.accepted = false →
        ended = .done moment (.error (.rejected (ack.reason.getD "no reason given")))) ∧
      (∀ payload fault, link.received reply = .ok payload → Ack.ofBytes payload = .error fault →
        ended = .done moment (.error (.malformed fault))) ∧
      (∀ error, link.received reply = .error error →
        ended = .done moment (.error (.transport error)))) ∧
    ((¬ ∃ reply moment, decides reply moment) →
      ended = .done closes (.error (.ackTimeout registrar.ackTimeout))) := by
  rw [registrar.run_of_sent identity files deadline hsent (hcloses.deadline? hfits)] at hkept ⊢
  have hawait := await_ended exchange.link (registrar.window closes deadline exchange) now
    exchange.link.wire.replies hcloses.le fun hcut ↦ hkept (Ended.giving_eq_cut_iff.2 hcut)
  obtain ⟨hdecided, hexpired⟩ := hawait
  intro link ended decides
  have houtcome {reply : Reply} {moment : Moment} {result : Except PoolError Unit}
      (h : decides reply moment) (hmeant : meant link exchange.nextId reply = .decides result) :
      ended = .done moment (result.map fun _ ↦ registrar.pool identity exchange) :=
    Ended.giving_eq_done_iff.2 ⟨result, hdecided reply moment result h.1 h.2 hmeant, rfl⟩
  have hnone (h : ¬ ∃ reply moment, decides reply moment) :
      ended = .done closes (.error (.ackTimeout registrar.ackTimeout)) :=
    Ended.giving_eq_done_iff.2 ⟨_, hexpired h, rfl⟩
  refine ⟨⟨?_, ?_⟩, ?_, hnone⟩
  · rintro ⟨moment, pool, hended⟩
    by_cases hsome : ∃ reply moment, decides reply moment
    · obtain ⟨own, at', hdecides⟩ := hsome
      obtain ⟨foreign, rest, hsplit, hforeign, hown, harrival⟩ := hdecides.1
      obtain ⟨result, hmeant⟩ := meant_of_not_foreign hown
      have hresult := (houtcome hdecides hmeant).symm.trans hended
      cases result with
      | error error => simp [Except.map] at hresult
      | ok accepted =>
        obtain ⟨ack, hack, hid, haccepted⟩ := meant_eq_success_iff.1 hmeant
        exact ⟨foreign, own, rest, ack, hsplit, hforeign, hack, hid, haccepted, harrival ▸ hdecides.2⟩
    · rw [hnone hsome] at hended
      simp at hended
  · rintro ⟨foreign, own, rest, ack, hsplit, hforeign, hack, hid, haccepted, harrival⟩
    have hdecides : decides own (arrival now (foreign ++ [own])) :=
      ⟨⟨foreign, rest, hsplit, hforeign, hack.not_foreign hid, rfl⟩, harrival⟩
    exact ⟨_, _, houtcome hdecides (meant_eq_success_iff.2 ⟨ack, hack, hid, haccepted⟩)⟩
  · intro reply moment hdecides
    refine ⟨?_, ?_, ?_, ?_⟩
    · intro ack hack haccepted
      have hmeant := meant_of_own hack (hdecides.1.id_eq hack)
      rw [if_pos haccepted] at hmeant
      exact houtcome hdecides hmeant
    · intro ack hack hrefused
      have hmeant := meant_of_own hack (hdecides.1.id_eq hack)
      rw [if_neg (by simp [hrefused])] at hmeant
      exact houtcome hdecides hmeant
    · intro payload fault hreceived hfault
      exact houtcome hdecides (meant_of_malformed _ hreceived hfault)
    · intro error hreceived
      exact houtcome hdecides (meant_of_unreceived _ hreceived)

/-- A window that is no whole number of milliseconds long. -/
def patient : Registrar := { ackTimeout := ⟨9999500000⟩ }

/-- In the last millisecond of the window a refusal follows the answer to another registration. -/
def lateRefusal : Exchange where
  link :=
    { target := "10.0.0.1:5271"
      key := none
      wire :=
        { replies := [⟨7, .ok (Ack.mk 9 true none).toBytes⟩,
            ⟨10000, .ok (Ack.mk 1 false (some "full")).toBytes⟩] } }

theorem lateRefusal_decides :
    Clock.canTell 0 patient.ackTimeout ∧ Clock.FirstAfter 0 patient.ackTimeout 10000 ∧
      ((patient.attempt ⟨"node-1", ""⟩ {}).run 0 60000 lateRefusal).ended =
        .done 10000 (.error (.rejected "full")) := by
  have hparse : (Ack.ofBytes (Ack.mk 9 true none).toBytes).toOption = some ⟨9, true, none⟩ ∧
      (Ack.ofBytes (Ack.mk 1 false (some "full")).toBytes).toOption =
        some ⟨1, false, some "full"⟩ := by
    decide +kernel
  have hok {bytes : Json.Bytes} {ack : Ack} (h : (Ack.ofBytes bytes).toOption = some ack) :
      Ack.ofBytes bytes = .ok ack := by
    cases hbytes : Ack.ofBytes bytes <;> simp_all [Except.toOption]
  have hcloses : Clock.FirstAfter 0 patient.ackTimeout 10000 :=
    Clock.firstAfter_afterSpan 0 patient.ackTimeout
  have hkept : ((patient.attempt ⟨"node-1", ""⟩ {}).run 0 60000 lateRefusal).ended ≠ .cut := by
    rw [patient.run_of_sent ⟨"node-1", ""⟩ {} 60000 rfl (hcloses.deadline? (by decide))]
    intro hcut
    refine await_ne_cut lateRefusal.link ⟨1, patient.ackTimeout, 10000, 60000⟩ 0
      lateRefusal.link.wire.replies (by decide) (by decide) ?_
    exact Ended.giving_eq_cut_iff.1 hcut
  refine ⟨by decide, hcloses, ?_⟩
  refine ((decided_by_own_acknowledgement patient ⟨"node-1", ""⟩ {} 0 60000 10000 lateRefusal rfl
    (by decide) hcloses hkept).2.1 ⟨10000, .ok (Ack.mk 1 false (some "full")).toBytes⟩ 10000
    ⟨⟨[⟨7, .ok (Ack.mk 9 true none).toBytes⟩], [], rfl, ?_, ?_, rfl⟩, le_rfl⟩).2.1
    ⟨1, false, some "full"⟩ ⟨_, rfl, hok hparse.2⟩ rfl
  · rintro other (_ | ⟨_, ⟨⟩⟩)
    exact ⟨⟨9, true, none⟩, ⟨_, rfl, hok hparse.1⟩, by decide⟩
  · exact Acknowledges.not_foreign ⟨_, rfl, hok hparse.2⟩ rfl

end Registrar

end FleetAgent.Control
