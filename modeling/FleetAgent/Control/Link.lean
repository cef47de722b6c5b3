import FleetAgent.Control.Failure
import FleetAgent.Control.Message
import FleetAgent.FileTree.Basic
import FleetAgent.Time.Clock

/-!
# Links

A link carries payloads between the agent and the control plane. What the other side does is given in
advance: replies wait in a queue, each from a moment on, and sending may fail. With a key every payload
travels in a frame, in both directions.

A link stands for a connection without its socket. What the connection itself reports, that a payload was
not sent, not received or rejected, is left out: a link only gives the failure to its user.
-/

namespace FleetAgent.Control

open Json (Bytes)

/-- Something to be received from a moment on: bytes, or a failure of the transport. -/
structure Reply where
  moment : Moment
  content : Except ConnectError Bytes

/-- What the other side of a link does. -/
structure Wire where
  /-- The nonce for the n-th frame of the agent. -/
  nonces : Nat → Bytes := fun _ ↦ []
  replies : List Reply := []
  /-- The n-th payload is not sent if the n-th entry is an error. -/
  sendFaults : List (Option ConnectError) := []

structure Sent where
  moment : Moment
  payload : Bytes
  frame : Option Bytes
  failed : Bool
  /-- The files as they stood at that moment. -/
  files : FileTree

structure Link where
  target : String
  key : Option Codec.Key
  wire : Wire
  /-- The payloads so far, the latest first. -/
  sent : List Sent := []

namespace Link

/-- What goes over the wire for a payload. -/
def pack (link : Link) (payload : Bytes) : Except ConnectError Bytes :=
  match link.key with
  | some key => (key.encode (link.wire.nonces link.sent.length) payload).mapError .codec
  | none => .ok payload

/-- The payload of what came over the wire. -/
def unpack (link : Link) (bytes : Bytes) : Except ConnectError Bytes :=
  match link.key with
  | some key => (key.decode bytes).mapError .codec
  | none => .ok bytes

/-- Why the next payload cannot be sent, if so. -/
def sendFault? (link : Link) (packed : Except ConnectError Bytes) : Option ConnectError :=
  match packed with
  | .error error => some error
  | .ok _ => link.wire.sendFaults.headD none

def send (link : Link) (now : Moment) (files : FileTree) (payload : Bytes) :
    Except ConnectError Unit × Link :=
  let packed := link.pack payload
  let fault? := link.sendFault? packed
  let frame := if link.key.isSome then packed.toOption else none
  let sent : Sent := ⟨now, payload, frame, fault?.isSome, files⟩
  let wire := { link.wire with sendFaults := link.wire.sendFaults.drop 1 }
  (match fault? with
    | some error => .error error
    | none => .ok (),
   { link with wire, sent := sent :: link.sent })

/-- What a reply comes to on this link. -/
def received (link : Link) (reply : Reply) : Except ConnectError Bytes :=
  reply.content >>= link.unpack

end Link

end FleetAgent.Control
