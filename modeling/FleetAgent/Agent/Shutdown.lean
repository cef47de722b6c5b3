import FleetAgent.Log.Event

/-!
# Shutting down

A channel with two ends asks the agent to stop. The trigger is fired once, with a signal, and the
waiter waits once. Whoever waits learns of the signal or that the trigger is gone without one.
-/

namespace FleetAgent

inductive Signal where
  | interrupt
  | terminate
  deriving DecidableEq, Repr

def Signal.name : Signal → String
  | .interrupt => "SIGINT"
  | .terminate => "SIGTERM"

def Signal.ofName? : String → Option Signal
  | "SIGINT" => some .interrupt
  | "SIGTERM" => some .terminate
  | _ => none

inductive Waited where
  | asked (signal : Signal)
  /-- The trigger is gone and was not fired. -/
  | dropped
  /-- The trigger is still there. -/
  | pending
  deriving DecidableEq, Repr

/-- What a wait comes to that ends with a signal or with the end of the trigger. -/
def Waited.ofSignal? : Option Signal → Waited
  | some signal => .asked signal
  | none => .dropped

def Waited.events : Waited → List Log.Event
  | .asked signal =>
    [⟨.info, "fleetd_agent::lifecycle", "Shutdown requested", [("signal", .shown signal.name)]⟩]
  | .dropped => [⟨.warn, "fleetd_agent::lifecycle", "Shutdown trigger dropped without a signal", []⟩]
  | .pending => []

/-- The two ends of a channel, as far as they are still there, and the signal on its way. -/
structure Channel where
  hasTrigger : Bool := true
  hasWaiter : Bool := true
  signal : Option Signal := none
  deriving DecidableEq, Repr

namespace Channel

/-- Fires the trigger, if it is still there, and says whether somebody may still wait for it. -/
def fire (channel : Channel) (signal : Signal) : Option Bool × Channel :=
  if channel.hasTrigger then
    (some channel.hasWaiter,
     { channel with hasTrigger := false, signal := if channel.hasWaiter then some signal else none })
  else (none, channel)

/-- Drops the trigger, and says whether it was still there. -/
def dropTrigger (channel : Channel) : Bool × Channel :=
  (channel.hasTrigger, { channel with hasTrigger := false })

/-- Drops the waiter, and says whether it was still there. -/
def dropWaiter (channel : Channel) : Bool × Channel :=
  (channel.hasWaiter, { channel with hasWaiter := false })

/-- Waits for as long as nothing else happens; the waiter, if it is still there, is used up. -/
def wait (channel : Channel) : Option Waited × Channel :=
  if channel.hasWaiter then
    let waited := match channel.signal with
      | some signal => Waited.asked signal
      | none => if channel.hasTrigger then .pending else .dropped
    (some waited, { channel with hasWaiter := false })
  else (none, channel)

end Channel

end FleetAgent
