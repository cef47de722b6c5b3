import FleetAgent.Cipher.ChaCha20
import FleetAgent.Cipher.Poly1305

/-!
# Sealing a text

ChaCha20 hides a text and Poly1305 authenticates what it hid, under a key that the stream of counter
zero gives for this one nonce. What has been sealed can be opened again, and nothing else opens.
-/

namespace FleetAgent.Cipher.Sealing

def tagSize : Nat := 16

/-- A text of this many blocks of key stream or more is not sealed. -/
def blockLimit : Nat := UInt32.size - 1

/-- The text is too long for its key stream. -/
def tooLong (text : List UInt8) : Bool := blockLimit ≤ text.length / 64

/-- The zeros that fill the last block of sixteen bytes. -/
def filling (size : Nat) : List UInt8 := List.replicate ((16 - size % 16) % 16) 0

def tagOf (key nonce hidden : List UInt8) : List UInt8 :=
  Poly1305.tag ((ChaCha20.block key 0 nonce).take 32)
    (hidden ++ filling hidden.length ++ toLittleEndian 8 0 ++ toLittleEndian 8 hidden.length)

/-- The hidden text and its tag. -/
def close? (key nonce text : List UInt8) : Option (List UInt8) :=
  if tooLong text then none
  else
    let hidden := ChaCha20.crypt key nonce text
    some (hidden ++ tagOf key nonce hidden)

/-- The text of a hidden text with its tag. -/
def open? (key nonce sealed : List UInt8) : Option (List UInt8) :=
  let size := sealed.length - tagSize
  let hidden := sealed.take size
  if sealed.length < tagSize ∨ tooLong hidden = true ∨ sealed.drop size ≠ tagOf key nonce hidden then none
  else some (ChaCha20.crypt key nonce hidden)

end FleetAgent.Cipher.Sealing
