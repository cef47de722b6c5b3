import FleetAgent.Control.Failure
import FleetAgent.Log.Event
import FleetAgent.Text.Strip

/-!
# The address to dial

Only the first endpoint is dialed; that others are passed over is reported. An address that has colons
of its own is put in brackets, so that the port is always what follows the last colon.
-/

namespace FleetAgent.Control

def defaultPort : UInt16 := 5271

/-- The primary endpoint without blanks around it, if it says anything. -/
def primary? (endpoints : List String) : Option String :=
  (endpoints.head?.map Text.strip).filter fun text ↦ !text.isEmpty

def hostPart (primary : List Char) : List Char :=
  if primary.contains ':' ∧ primary.head? ≠ some '[' then '[' :: primary ++ [']'] else primary

def addressOf (primary : String) (port : UInt16) : String :=
  String.ofList (hostPart primary.toList) ++ ":" ++ toString port.toNat

/-- The report that endpoints are passed over. -/
def passedOver (primary : String) (count : Nat) : Log.Event :=
  ⟨.warn, "fleetd_agent::connection",
    "Only the primary control-plane endpoint is dialed; fallback to secondary endpoints is not implemented",
    [("primary", .shown primary), ("ignored", .shown (toString count))]⟩

/-- The address to dial, and what there is to report about it. -/
def target (endpoints : List String) (port : UInt16) :
    Except ConnectError (String × List Log.Event) :=
  match primary? endpoints with
  | none => .error .noEndpoints
  | some primary =>
    let ignored := endpoints.length - 1
    .ok (addressOf primary port, if ignored = 0 then [] else [passedOver primary ignored])

end FleetAgent.Control
