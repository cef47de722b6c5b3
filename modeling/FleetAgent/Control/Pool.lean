import FleetAgent.Control.Link
import FleetAgent.Control.Retry

/-!
# Worker pools

A pool comes into being when the control plane accepts its registration. Every attempt registers under
an identifier of its own and waits, up to a deadline that no reply moves, for the acknowledgement with
that identifier; acknowledgements of other attempts are passed over, and any other reply decides the
attempt.
-/

namespace FleetAgent.Control

inductive PoolError where
  | transport (error : ConnectError)
  | malformed (fault : Json.Malformed)
  | rejected (reason : String)
  | ackTimeout (after : Span)
  /-- The time for the whole sequence of attempts ran out during the first of them. -/
  | deadline

def PoolError.message : PoolError → String
  | .transport error => "pool registration transport error: " ++ error.message
  | .malformed fault => "malformed registration reply: " ++ fault.message
  | .rejected reason => "registration rejected by control plane: " ++ reason
  | .ackTimeout after => "no registration reply within " ++ after.toString
  | .deadline => deadlineMessage

structure Identity where
  systemId : String
  clusterId : String := ""
  deriving DecidableEq, Repr

/-- A pool that the control plane has accepted. -/
structure Pool where
  systemId : String
  queues : List String
  target : String
  deriving DecidableEq, Repr

def Pool.shown (pool : Pool) : String :=
  Text.shownRecord "WorkerPool"
    [("system_id", Text.quoted pool.systemId), ("task_queues", Text.quotedList pool.queues),
     ("target", Text.quoted pool.target)]

/-! ## Queues -/

def commonQueue : String := "agent:main"

def ownQueue (systemId : String) : String := systemId ++ "@" ++ commonQueue

/-- A queue at the end of others, unless it is among them. -/
def addQueue (queues : List String) (queue : String) : List String :=
  if queues.contains queue then queues else queues ++ [queue]

/-- The queues of an agent: its own one, the common one, and the extra ones, none of them twice. -/
def queuesOf (systemId : String) (extra : List String) : List String :=
  extra.foldl addQueue [ownQueue systemId, commonQueue]

/-! ## Waiting for the acknowledgement -/

/-- The link of a pool and the identifier of the next registration. -/
structure Exchange where
  link : Link
  nextId : UInt64 := 1

def stale (expected received : UInt64) : Log.Event :=
  ⟨.debug, "fleetd_agent::pool", "Dropping stale registration reply",
    [("expected", .shown (toString expected)), ("received", .shown (toString received))]⟩

/-- The window for the acknowledgement of one registration. -/
structure Window where
  id : UInt64
  timeout : Span
  /-- When the acknowledgement is no longer waited for. -/
  closes : Moment
  /-- When the whole attempt is given up. -/
  deadline : Moment

/-- How a wait goes from which nothing comes any more. -/
def Window.expire (window : Window) (now : Moment) : Ended PoolError Unit :=
  if max now window.closes ≤ max now window.deadline then
    .done (max now window.closes) (.error (.ackTimeout window.timeout))
  else .cut

/-- A reply that is there at a moment has come in time. -/
def Window.reaches (window : Window) (now moment : Moment) : Bool :=
  moment ≤ max now window.closes && moment ≤ max now window.deadline

/-- What a wait for an acknowledgement comes to. -/
structure Awaited where
  ended : Ended PoolError Unit
  events : List Log.Event := []
  /-- The replies that have not been received. -/
  rest : List Reply

/-- What a reply means for a registration: it decides it, or it is the acknowledgement of another
one. -/
inductive Meant where
  | decides (result : Except PoolError Unit)
  | other (id : UInt64)

def meant (link : Link) (id : UInt64) (reply : Reply) : Meant :=
  match link.received reply with
  | .error error => .decides (.error (.transport error))
  | .ok payload =>
    match Ack.ofBytes payload with
    | .error fault => .decides (.error (.malformed fault))
    | .ok ack =>
      if ack.id ≠ id then .other ack.id
      else if ack.accepted then .decides (.ok ())
      else .decides (.error (.rejected (ack.reason.getD "no reason given")))

/-- Receives replies until one of them decides the registration or the window closes. -/
def await (link : Link) (window : Window) (now : Moment) : List Reply → Awaited
  | [] => { ended := window.expire now, rest := [] }
  | reply :: rest =>
    let moment := max now reply.moment
    if window.reaches now moment then
      match meant link window.id reply with
      | .decides result => { ended := .done moment result, rest }
      | .other id =>
        let later := await link window moment rest
        { later with events := stale window.id id :: later.events }
    else { ended := window.expire now, rest := reply :: rest }

/-! ## Registering -/

structure Registrar where
  extraQueues : List String := []
  ackTimeout : Span := .ofSeconds 10
  agentVersion : String := "0.1.0"

namespace Registrar

def registration (registrar : Registrar) (identity : Identity) (id : UInt64) : Registration where
  id
  systemId := identity.systemId
  clusterId := identity.clusterId
  agentVersion := registrar.agentVersion
  queues := queuesOf identity.systemId registrar.extraQueues

def announced (registration : Registration) : Log.Event :=
  ⟨.debug, "fleetd_agent::pool", "Registration sent",
    [("system_id", .shown registration.systemId), ("registration_id", .shown (toString registration.id))]⟩

/-- Waits for the acknowledgement of a registration that has been sent. -/
def awaitAck (registrar : Registrar) (registration : Registration) (now deadline : Moment)
    (exchange : Exchange) : Attempted Exchange PoolError Pool :=
  let sent := announced registration
  match Clock.deadline? now registrar.ackTimeout with
  | none => { ended := .broken, events := [sent], state := exchange }
  | some closes =>
    let link := exchange.link
    let window : Window := ⟨registration.id, registrar.ackTimeout, closes, deadline⟩
    let awaited := await link window now link.wire.replies
    let link := { link with wire := { link.wire with replies := awaited.rest } }
    { ended := match awaited.ended with
        | .done moment (.ok ()) => .done moment (.ok ⟨registration.systemId, registration.queues, link.target⟩)
        | .done moment (.error error) => .done moment (.error error)
        | .cut => .cut
        | .broken => .broken
      events := sent :: awaited.events
      state := { exchange with link } }

/-- The attempt to register. The files stay the same meanwhile. -/
def attempt (registrar : Registrar) (identity : Identity) (files : FileTree) :
    Attempt Exchange PoolError Pool where
  name := "worker_pool"
  describe := PoolError.message
  givenUp := .deadline
  run now deadline exchange :=
    let registration := registrar.registration identity exchange.nextId
    let (sent, link) := exchange.link.send now files registration.toBytes
    let exchange : Exchange := ⟨link, exchange.nextId + 1⟩
    match sent with
    | .error error => { ended := .done now (.error (.transport error)), state := exchange }
    | .ok _ => registrar.awaitAck registration now deadline exchange

/-- Registers once, with no other limit than the time for the acknowledgement. -/
def registerOnce (registrar : Registrar) (identity : Identity) (files : FileTree) (now : Moment)
    (exchange : Exchange) : Attempted Exchange PoolError Pool :=
  (registrar.attempt identity files).run now (Clock.wake now registrar.ackTimeout) exchange

def created (pool : Pool) (identity : Identity) : Log.Event :=
  ⟨.info, "fleetd_agent::pool", "Worker pool created",
    [("system_id", .shown identity.systemId), ("task_queues", .shown (Text.quotedList pool.queues))]⟩

/-- A sequence of registrations, and what is reported about it. -/
structure Registering where
  trial : Trial Exchange PoolError Pool
  events : List Log.Event

/-- Registers until the control plane accepts, in at most so many attempts. -/
def register (registrar : Registrar) (identity : Identity) (files : FileTree) (backoff : Backoff)
    (draws : Nat → Float) (start : Moment) (fuel : Nat) (exchange : Exchange) : Registering :=
  let attempt := registrar.attempt identity files
  let trial := ({ attempt, backoff, draws, start : Retry _ _ _ }).run fuel exchange
  let success := match trial.verdict with
    | .success pool => [created pool identity]
    | _ => []
  ⟨trial, attempt.report trial.tries ++ success⟩

end Registrar

/-! ## Departure -/

namespace Pool

def unannounced (pool : Pool) (error : ConnectError) : Log.Event :=
  ⟨.warn, "fleetd_agent::pool", "Failed to announce departure",
    [("system_id", .shown pool.systemId), ("error", .shown error.message)]⟩

def stopped (pool : Pool) : Log.Event :=
  ⟨.info, "fleetd_agent::pool", "Worker pool stopped",
    [("system_id", .shown pool.systemId), ("control_plane", .shown pool.target)]⟩

/-- Announces that the agent goes, and stops the pool whether or not that could be sent. -/
def stop (pool : Pool) (now : Moment) (files : FileTree) (link : Link) : List Log.Event × Link :=
  let (sent, link) := link.send now files (Departure.mk pool.systemId).toBytes
  let failure := match sent with
    | .error error => [pool.unannounced error]
    | .ok _ => []
  (failure ++ [pool.stopped], link)

end Pool

end FleetAgent.Control
