import FleetAgent.Codec.Frame
import FleetAgent.Time.Span

/-!
# Failures of the connection

What can go wrong between the agent and the control plane, as causes, with the text for each of them.
-/

namespace FleetAgent.Control

inductive ConnectError where
  | noEndpoints
  | dial (target reason : String)
  | timeout (target : String) (after : Span)
  | send (reason : String)
  | receive (reason : String)
  | emptyMessage
  | codec (error : Codec.CodecError)
  /-- The time for the whole sequence of attempts ran out during the first of them. -/
  | deadline
  deriving DecidableEq, Repr

/-- The text for an attempt that was still running when the time was up. -/
def deadlineMessage : String := "retry deadline reached while an attempt was in flight"

def ConnectError.message : ConnectError → String
  | .noEndpoints => "no control-plane endpoints configured"
  | .dial target reason => "failed to connect to " ++ target ++ ": " ++ reason
  | .timeout target after => "timed out connecting to " ++ target ++ " after " ++ after.toString
  | .send reason => "failed to send to control plane: " ++ reason
  | .receive reason => "failed to receive from control plane: " ++ reason
  | .emptyMessage => "empty message from control plane"
  | .codec error => "payload codec error: " ++ error.message
  | .deadline => deadlineMessage

end FleetAgent.Control
