/-!
# Bytes and words

Words of four bytes in both byte orders, numbers as little-endian bytes, and the division of a text
into blocks.
-/

namespace FleetAgent.Cipher

/-- The number whose bytes are given, the least significant first. -/
def littleEndian : List UInt8 → Nat
  | [] => 0
  | byte :: rest => byte.toNat + 256 * littleEndian rest

def toLittleEndian : Nat → Nat → List UInt8
  | 0, _ => []
  | size + 1, value => UInt8.ofNat (value % 256) :: toLittleEndian size (value / 256)

theorem length_toLittleEndian (size value : Nat) : (toLittleEndian size value).length = size := by
  induction size generalizing value with
  | zero => rfl
  | succ size ih => simp [toLittleEndian, ih]

/-- Blocks of `last + 1` elements; the final block may be shorter. -/
def blocks (last : Nat) (list : List α) : List (List α) :=
  match list with
  | [] => []
  | first :: rest => (first :: rest.take last) :: blocks last (rest.drop last)
termination_by list.length
decreasing_by simp only [List.length_drop, List.length_cons]; omega

/-- The word whose bytes are given, the least significant first. -/
def littleWord (bytes : List UInt8) : UInt32 := UInt32.ofNat (littleEndian bytes)

/-- The word whose bytes are given, the most significant first. -/
def bigWord (bytes : List UInt8) : UInt32 := littleWord bytes.reverse

def littleBytes (word : UInt32) : List UInt8 := toLittleEndian 4 word.toNat

def bigBytes (word : UInt32) : List UInt8 := (littleBytes word).reverse

/-- The word turned left by so many bits, fewer than thirty-two and more than none. -/
def turnLeft (word : UInt32) (bits : UInt32) : UInt32 := (word <<< bits) ||| (word >>> (32 - bits))

/-- The word turned right by so many bits, fewer than thirty-two and more than none. -/
def turnRight (word : UInt32) (bits : UInt32) : UInt32 := (word >>> bits) ||| (word <<< (32 - bits))

end FleetAgent.Cipher
