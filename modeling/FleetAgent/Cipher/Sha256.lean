import FleetAgent.Cipher.Words

/-!
# SHA-256

The digest of FIPS 180-4 with eight words of state. The message is closed by a one bit, zeros and its
length in bits, and each block of sixty-four bytes is folded into the state in sixty-four rounds.
-/

namespace FleetAgent.Cipher.Sha256

structure State where
  a : UInt32
  b : UInt32
  c : UInt32
  d : UInt32
  e : UInt32
  f : UInt32
  g : UInt32
  h : UInt32
  deriving DecidableEq, Repr

/-- The fractional parts of the square roots of the first eight primes. -/
def initial : State :=
  ⟨0x6a09e667, 0xbb67ae85, 0x3c6ef372, 0xa54ff53a, 0x510e527f, 0x9b05688c, 0x1f83d9ab, 0x5be0cd19⟩

/-- The fractional parts of the cube roots of the first sixty-four primes. -/
def constants : List UInt32 :=
  [0x428a2f98, 0x71374491, 0xb5c0fbcf, 0xe9b5dba5, 0x3956c25b, 0x59f111f1, 0x923f82a4, 0xab1c5ed5,
   0xd807aa98, 0x12835b01, 0x243185be, 0x550c7dc3, 0x72be5d74, 0x80deb1fe, 0x9bdc06a7, 0xc19bf174,
   0xe49b69c1, 0xefbe4786, 0x0fc19dc6, 0x240ca1cc, 0x2de92c6f, 0x4a7484aa, 0x5cb0a9dc, 0x76f988da,
   0x983e5152, 0xa831c66d, 0xb00327c8, 0xbf597fc7, 0xc6e00bf3, 0xd5a79147, 0x06ca6351, 0x14292967,
   0x27b70a85, 0x2e1b2138, 0x4d2c6dfc, 0x53380d13, 0x650a7354, 0x766a0abb, 0x81c2c92e, 0x92722c85,
   0xa2bfe8a1, 0xa81a664b, 0xc24b8b70, 0xc76c51a3, 0xd192e819, 0xd6990624, 0xf40e3585, 0x106aa070,
   0x19a4c116, 0x1e376c08, 0x2748774c, 0x34b0bcb5, 0x391c0cb3, 0x4ed8aa4a, 0x5b9cca4f, 0x682e6ff3,
   0x748f82ee, 0x78a5636f, 0x84c87814, 0x8cc70208, 0x90befffa, 0xa4506ceb, 0xbef9a3f7, 0xc67178f2]

/-- The message with its closing bit, zeros and length. -/
def close (message : List UInt8) : List UInt8 :=
  let zeros := (119 - message.length % 64) % 64
  message ++ 0x80 :: List.replicate zeros 0 ++ (toLittleEndian 8 (8 * message.length)).reverse

/-- The next word of the schedule from the sixteen before it. -/
def nextWord (window : List UInt32) : UInt32 :=
  let at' (i : Nat) := window.getD i 0
  let small0 := turnRight (at' 1) 7 ^^^ turnRight (at' 1) 18 ^^^ (at' 1 >>> 3)
  let small1 := turnRight (at' 14) 17 ^^^ turnRight (at' 14) 19 ^^^ (at' 14 >>> 10)
  at' 0 + small0 + at' 9 + small1

/-- So many words of the schedule, beginning with the window's first. -/
def schedule : Nat → List UInt32 → List UInt32
  | 0, _ => []
  | count + 1, window => window.headD 0 :: schedule count (window.tail ++ [nextWord window])

def round (state : State) (word : UInt32) : State :=
  let big1 := turnRight state.e 6 ^^^ turnRight state.e 11 ^^^ turnRight state.e 25
  let choice := (state.e &&& state.f) ^^^ (~~~state.e &&& state.g)
  let first := state.h + big1 + choice + word
  let big0 := turnRight state.a 2 ^^^ turnRight state.a 13 ^^^ turnRight state.a 22
  let majority := (state.a &&& state.b) ^^^ (state.a &&& state.c) ^^^ (state.b &&& state.c)
  ⟨first + (big0 + majority), state.a, state.b, state.c, state.d + first, state.e, state.f, state.g⟩

def compress (state : State) (block : List UInt8) : State :=
  let words := schedule 64 ((blocks 3 block).map bigWord)
  let next := (List.zipWith (· + ·) constants words).foldl round state
  ⟨state.a + next.a, state.b + next.b, state.c + next.c, state.d + next.d,
   state.e + next.e, state.f + next.f, state.g + next.g, state.h + next.h⟩

/-- The digest of a message, thirty-two bytes. -/
def digest (message : List UInt8) : List UInt8 :=
  let state := (blocks 63 (close message)).foldl compress initial
  bigBytes state.a ++ bigBytes state.b ++ bigBytes state.c ++ bigBytes state.d ++
    bigBytes state.e ++ bigBytes state.f ++ bigBytes state.g ++ bigBytes state.h

theorem length_digest (message : List UInt8) : (digest message).length = 32 := by
  simp [digest, bigBytes, littleBytes, length_toLittleEndian]

end FleetAgent.Cipher.Sha256
