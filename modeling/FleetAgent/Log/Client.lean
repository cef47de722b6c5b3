import FleetAgent.Log.Event
import FleetAgent.Text.Ranges

/-!
# Reports of the connection

The connection reports with loose pairs of keys and values. They are rendered on one line, and a value
that has a blank in it is quoted, so no value can begin a new line or pass for another pair.

Only the form of these reports is given here. They are made by the dialer and the connection over real
sockets (a failed dial, a socket that is connected, a payload that was not sent, not received or rejected),
whose place is taken by dials and wires given in advance; so no dial, no link and no run makes one.
-/

namespace FleetAgent.Log

/-- One key with its value, the value quoted when it has a blank in it. -/
def renderPair (pair : String × String) : String :=
  let value := if pair.2.toList.any Text.isBlank then Text.quoted pair.2 else pair.2
  pair.1 ++ "=" ++ value

/-- The pairs in order, with a space between each two of them. -/
def renderPairs (pairs : List (String × String)) : String :=
  " ".intercalate (pairs.map renderPair)

structure Client where
  component : String := "control-plane"
  deriving DecidableEq, Repr

/-- The event for one report. -/
def Client.event (client : Client) (level : Level) (message : String)
    (pairs : List (String × String)) : Event :=
  ⟨level, "fleetd_agent::logger", message,
    [("component", .text client.component), ("fields", .shown (renderPairs pairs))]⟩

/-- The client as the options of a connection show it. -/
def Client.shown (client : Client) : String :=
  Text.shownRecord "ClientLogger" [("component", Text.quoted client.component)]

end FleetAgent.Log
