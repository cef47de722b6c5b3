import FleetAgent.Cipher.Sealing
import FleetAgent.Codec.Key

/-!
# Frames

A frame carries one payload: a version byte, the fingerprint of the key, a nonce, and the sealed
payload. Reading checks these parts in their order, so that a peer with another key is told apart from
a frame that was tampered with.
-/

namespace FleetAgent.Codec

inductive CodecError where
  | invalidKeyMaterial (reason : String)
  | truncated (got least : Nat)
  | unsupportedVersion (version : UInt8)
  | keyMismatch
  | authentication
  | encryption
  deriving DecidableEq, Repr

def CodecError.message : CodecError → String
  | .invalidKeyMaterial reason => "invalid key material: " ++ reason
  | .truncated got least =>
    "payload too short: " ++ toString got ++ " bytes (minimum " ++ toString least ++ ")"
  | .unsupportedVersion version => "unsupported payload format version: 0x" ++ Text.Hex.write [version]
  | .keyMismatch => "payload was encoded with a different key"
  | .authentication => "payload authentication failed"
  | .encryption => "payload encryption failed"

/-- The version of the frames written here. -/
def version : UInt8 := 1

def nonceSize : Nat := 12

/-- The bytes in front of the sealed payload. -/
def headerSize : Nat := 1 + Key.idSize + nonceSize

def leastSize : Nat := headerSize + Cipher.Sealing.tagSize

namespace Key

def encode (key : Key) (nonce payload : List UInt8) : Except CodecError (List UInt8) :=
  match Cipher.Sealing.close? key.bytes nonce payload with
  | some sealed => .ok (version :: key.id ++ nonce ++ sealed)
  | none => .error .encryption

def decode (key : Key) (frame : List UInt8) : Except CodecError (List UInt8) :=
  if frame.length < leastSize then .error (.truncated frame.length leastSize)
  else if frame.headD 0 ≠ version then .error (.unsupportedVersion (frame.headD 0))
  else if (frame.drop 1).take Key.idSize ≠ key.id then .error .keyMismatch
  else
    let nonce := (frame.drop (1 + Key.idSize)).take nonceSize
    match Cipher.Sealing.open? key.bytes nonce (frame.drop headerSize) with
    | some payload => .ok payload
    | none => .error .authentication

end Key

end FleetAgent.Codec
