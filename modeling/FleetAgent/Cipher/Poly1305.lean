import FleetAgent.Cipher.Words

/-!
# Poly1305

The one-time authenticator of RFC 8439. The blocks of the message, each with a one behind its last
byte, are the coefficients of a polynomial, which is evaluated at the first half of the key modulo
2^130 - 5; the second half of the key is added to the result.
-/

namespace FleetAgent.Cipher.Poly1305

def prime : Nat := Nat.pow 2 130 - 5

/-- Clears the bits of the evaluation point that have to be zero. -/
def clamp (point : Nat) : Nat := point &&& 0x0ffffffc0ffffffc0ffffffc0fffffff

/-- The number that a block stands for. -/
def coefficient (block : List UInt8) : Nat := littleEndian block + Nat.pow 256 block.length

/-- The sixteen bytes of the tag of a message under a one-time key of thirty-two bytes. -/
def tag (key message : List UInt8) : List UInt8 :=
  let point := clamp (littleEndian (key.take 16))
  let sum := (blocks 15 message).foldl (fun sum block ↦ (sum + coefficient block) * point % prime) 0
  toLittleEndian 16 ((sum + littleEndian (key.drop 16)) % Nat.pow 2 128)

theorem length_tag (key message : List UInt8) : (tag key message).length = 16 :=
  length_toLittleEndian 16 _

end FleetAgent.Cipher.Poly1305
