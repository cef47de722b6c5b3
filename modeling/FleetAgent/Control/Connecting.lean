import FleetAgent.Control.Retry
import FleetAgent.Control.Target
import FleetAgent.Log.Client

/-!
# Connecting

The agent dials the primary endpoint until it is connected or the time for all attempts is up. Every
dial goes to the same address; without an endpoint there is no dial at all.

How a dial goes is given in advance. What the dialer itself reports, that a dial failed or that its socket
is connected, is left out; the events here are those of the sequence of dials.
-/

namespace FleetAgent.Control

structure DialOptions where
  address : String
  client : Log.Client := {}
  deriving DecidableEq, Repr

/-- The options as a log may show them; the key is left out. -/
def DialOptions.shown (options : DialOptions) : String :=
  "ConnectOptions \x7b host_port: " ++ Text.quoted options.address ++ ", logger: " ++ options.client.shown ++
    ", .. \x7d"

/-- How the n-th dial of an address goes. -/
abbrev Dialer := Nat → String → Course (Except ConnectError Unit)

/-- One dial that was begun. -/
structure Dial where
  moment : Moment
  options : DialOptions
  deriving DecidableEq, Repr

/-- Dials until there is a connection, whose address it gives. -/
structure Connecting where
  verdict : Verdict ConnectError String
  moment : Moment
  dials : List Dial := []
  events : List Log.Event := []

def dialing (address : String) : Log.Event :=
  ⟨.info, "fleetd_agent::connection", "Connecting to control plane", [("target_addr", .shown address)]⟩

def connected (address : String) : Log.Event :=
  ⟨.info, "fleetd_agent::connection", "Connected to control plane", [("target_addr", .shown address)]⟩

def connectName : String := "connect"

def dialAttempt (dialer : Dialer) (address : String) : Attempt Nat ConnectError String :=
  .ofCourses connectName ConnectError.message .deadline fun n ↦
    match dialer n address with
    | .after millis result => .after millis (result.map fun _ ↦ address)
    | .never => .never

/-- Dials an address in at most so many attempts. -/
def connectTo (address : String) (backoff : Backoff) (draws : Nat → Float) (dialer : Dialer)
    (start : Moment) (fuel : Nat) : Connecting :=
  let attempt := dialAttempt dialer address
  let trial := ({ attempt, backoff, draws, start : Retry _ _ _ }).run fuel 0
  let success := match trial.verdict with
    | .success address => [connected address]
    | _ => []
  { verdict := trial.verdict
    moment := trial.moment
    dials := trial.tries.map fun this ↦ ⟨this.start, { address }⟩
    events := dialing address :: attempt.report trial.tries ++ success }

/-- Connects to the primary one of the endpoints. -/
def connect (endpoints : List String) (port : UInt16) (backoff : Backoff) (draws : Nat → Float)
    (dialer : Dialer) (start : Moment) (fuel : Nat) : Connecting :=
  match target endpoints port with
  | .error error => { verdict := .failure ⟨connectName, 0, .zero, error⟩, moment := start }
  | .ok (address, events) =>
    let connecting := connectTo address backoff draws dialer start fuel
    { connecting with events := events ++ connecting.events }

end FleetAgent.Control
