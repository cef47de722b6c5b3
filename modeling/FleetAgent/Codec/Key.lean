import FleetAgent.Cipher.Sha256
import FleetAgent.Text.Hex
import FleetAgent.Text.Strip

/-!
# Keys from shared secrets

The key that seals payloads is derived from the bytes that the shared secret spells in hexadecimal
digits, so neither the case of the digits nor blanks around them make a difference. A short
fingerprint of the key tells peers with different secrets apart without giving the key away.
-/

namespace FleetAgent.Codec

inductive KeyFault where
  | notHex (fault : Text.Hex.Fault)
  | wrongLength (bytes : Nat)
  deriving DecidableEq, Repr

def KeyFault.message : KeyFault → String
  | .notHex fault => "secret is not valid hex: " ++ fault.message
  | .wrongLength bytes => "secret must be 16 or 32 bytes, got " ++ toString bytes

/-- A key and its fingerprint. -/
structure Key where
  bytes : List UInt8
  id : List UInt8
  deriving DecidableEq, Repr

namespace Key

/-- The bytes of the fingerprint. -/
def idSize : Nat := 8

/-- What sets keys for payloads apart from other uses of a secret. -/
def context : List UInt8 := "fleetd/payload-codec/v1".toUTF8.toList

def derive (secret : List UInt8) : Key :=
  let bytes := Cipher.Sha256.digest (context ++ secret)
  ⟨bytes, (Cipher.Sha256.digest bytes).take idSize⟩

/-- The key of a secret of sixteen or thirty-two bytes. -/
def ofSecret (secret : String) : Except KeyFault Key :=
  match Text.Hex.read (Text.strip secret).toUTF8.toList with
  | .error fault => .error (.notHex fault)
  | .ok raw =>
    if raw.length = 16 ∨ raw.length = 32 then .ok (derive raw) else .error (.wrongLength raw.length)

/-- The fingerprint in hexadecimal digits. -/
def fingerprint (key : Key) : String := Text.Hex.write key.id

theorem length_id_derive (secret : List UInt8) : (derive secret).id.length = idSize := by
  simp [derive, idSize, Cipher.Sha256.length_digest]

def shown (key : Key) : String :=
  "EncryptionCodec \x7b key_id: " ++ Text.quoted key.fingerprint ++ ", .. \x7d"

end Key

end FleetAgent.Codec
