import FleetAgent.Json.Record

/-!
# Messages of the control plane

An agent announces itself with a registration, which the control plane acknowledges, and it announces
its departure. Every message is an object in the JSON notation; a field whose value is the one that is
taken in its stead when it is missing is left out.
-/

namespace FleetAgent.Control

open Json (Bytes Reader Shape Malformed)

structure Registration where
  /-- Tells the attempts apart; the acknowledgement gives it back. -/
  id : UInt64
  systemId : String
  clusterId : String
  agentVersion : String
  queues : List String
  deriving DecidableEq, Repr

/-- The control plane's answer to a registration. -/
structure Ack where
  id : UInt64
  accepted : Bool
  reason : Option String
  deriving DecidableEq, Repr

structure Departure where
  systemId : String
  deriving DecidableEq, Repr

/-- The value of a field that has to be there. -/
def required (name : String) (value : Option α) : Except String α :=
  match value with
  | some value => .ok value
  | none => .error name

namespace Registration

/-- A registration of which some fields have been read. -/
structure Draft where
  id : Option UInt64 := none
  systemId : Option String := none
  clusterId : Option String := none
  agentVersion : Option String := none
  queues : Option (List String) := none

def Draft.has (draft : Draft) : String → Bool
  | "registration_id" => draft.id.isSome
  | "system_id" => draft.systemId.isSome
  | "cluster_id" => draft.clusterId.isSome
  | "agent_version" => draft.agentVersion.isSome
  | "task_queues" => draft.queues.isSome
  | _ => false

def Draft.take (field : String) (draft : Draft) : Reader Draft := do
  match field with
  | "registration_id" => return { draft with id := ← Json.natural }
  | "system_id" => return { draft with systemId := ← Json.text }
  | "cluster_id" => return { draft with clusterId := ← Json.text }
  | "agent_version" => return { draft with agentVersion := ← Json.text }
  | "task_queues" => return { draft with queues := ← Json.list Json.text }
  | _ => return draft

def Draft.finish (draft : Draft) : Except String Registration := do
  return {
    id := ← required "registration_id" draft.id
    systemId := ← required "system_id" draft.systemId
    clusterId := draft.clusterId.getD ""
    agentVersion := ← required "agent_version" draft.agentVersion
    queues := ← required "task_queues" draft.queues }

def shape : Shape Draft Registration where
  kind := "Registration"
  fields := ["registration_id", "system_id", "cluster_id", "agent_version", "task_queues"]
  blank := {}
  has := Draft.has
  take := Draft.take
  finish := Draft.finish

def ofBytes (bytes : Bytes) : Except Malformed Registration := shape.read.parse bytes

def toBytes (message : Registration) : Bytes :=
  Json.writtenObject <|
    [("registration_id", Json.digitsOf message.id.toNat), ("system_id", Json.quotedText message.systemId)] ++
    (if message.clusterId.isEmpty then [] else [("cluster_id", Json.quotedText message.clusterId)]) ++
    [("agent_version", Json.quotedText message.agentVersion),
     ("task_queues", Json.writtenList (message.queues.map Json.quotedText))]

def shown (message : Registration) : String :=
  Text.shownRecord "Registration"
    [("registration_id", toString message.id), ("system_id", Text.quoted message.systemId),
     ("cluster_id", Text.quoted message.clusterId), ("agent_version", Text.quoted message.agentVersion),
     ("task_queues", Text.quotedList message.queues)]

end Registration

namespace Ack

structure Draft where
  id : Option UInt64 := none
  accepted : Option Bool := none
  reason : Option (Option String) := none

def Draft.has (draft : Draft) : String → Bool
  | "registration_id" => draft.id.isSome
  | "accepted" => draft.accepted.isSome
  | "reason" => draft.reason.isSome
  | _ => false

def Draft.take (field : String) (draft : Draft) : Reader Draft := do
  match field with
  | "registration_id" => return { draft with id := ← Json.natural }
  | "accepted" => return { draft with accepted := ← Json.bool }
  | "reason" => return { draft with reason := some (← Json.optional Json.text) }
  | _ => return draft

def Draft.finish (draft : Draft) : Except String Ack := do
  return {
    id := ← required "registration_id" draft.id
    accepted := ← required "accepted" draft.accepted
    reason := draft.reason.getD none }

def shape : Shape Draft Ack where
  kind := "RegistrationAck"
  fields := ["registration_id", "accepted", "reason"]
  blank := {}
  has := Draft.has
  take := Draft.take
  finish := Draft.finish

def ofBytes (bytes : Bytes) : Except Malformed Ack := shape.read.parse bytes

def toBytes (message : Ack) : Bytes :=
  Json.writtenObject <|
    [("registration_id", Json.digitsOf message.id.toNat), ("accepted", Json.writtenBool message.accepted)] ++
    (message.reason.toList.map fun reason ↦ ("reason", Json.quotedText reason))

def shown (message : Ack) : String :=
  let reason := match message.reason with
    | some text => "Some(" ++ Text.quoted text ++ ")"
    | none => "None"
  Text.shownRecord "RegistrationAck"
    [("registration_id", toString message.id), ("accepted", if message.accepted then "true" else "false"),
     ("reason", reason)]

end Ack

namespace Departure

structure Draft where
  systemId : Option String := none

def Draft.has (draft : Draft) : String → Bool
  | "system_id" => draft.systemId.isSome
  | _ => false

def Draft.take (field : String) (draft : Draft) : Reader Draft := do
  match field with
  | "system_id" => return { draft with systemId := ← Json.text }
  | _ => return draft

def shape : Shape Draft Departure where
  kind := "Departure"
  fields := ["system_id"]
  blank := {}
  has := Draft.has
  take := Draft.take
  finish := fun draft ↦ (required "system_id" draft.systemId).map Departure.mk

def ofBytes (bytes : Bytes) : Except Malformed Departure := shape.read.parse bytes

def toBytes (message : Departure) : Bytes :=
  Json.writtenObject [("system_id", Json.quotedText message.systemId)]

def shown (message : Departure) : String :=
  Text.shownRecord "Departure" [("system_id", Text.quoted message.systemId)]

end Departure

end FleetAgent.Control
