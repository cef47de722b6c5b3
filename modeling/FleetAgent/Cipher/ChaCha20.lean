import FleetAgent.Cipher.Words

/-!
# ChaCha20

The stream cipher of RFC 8439. A block of sixty-four key-stream bytes comes from the key, a counter
and a nonce by ten double rounds; the stream is the blocks of successive counters, and a text is
combined with it byte by byte, so that doing it twice gives the text back.
-/

namespace FleetAgent.Cipher.ChaCha20

/-- The sixteen words of the working state. -/
abbrev State := Array UInt32

def word (state : State) (i : Nat) : UInt32 := state.getD i 0

def quarterRound (i j k l : Nat) (state : State) : State :=
  let (a, b, c, d) := (word state i, word state j, word state k, word state l)
  let a := a + b
  let d := turnLeft (d ^^^ a) 16
  let c := c + d
  let b := turnLeft (b ^^^ c) 12
  let a := a + b
  let d := turnLeft (d ^^^ a) 8
  let c := c + d
  let b := turnLeft (b ^^^ c) 7
  (((state.setIfInBounds i a).setIfInBounds j b).setIfInBounds k c).setIfInBounds l d

/-- One round on the columns and one on the diagonals. -/
def doubleRound (state : State) : State :=
  let columns := quarterRound 3 7 11 15 (quarterRound 2 6 10 14
    (quarterRound 1 5 9 13 (quarterRound 0 4 8 12 state)))
  quarterRound 3 4 9 14 (quarterRound 2 7 8 13
    (quarterRound 1 6 11 12 (quarterRound 0 5 10 15 columns)))

/-- The state before the rounds: the constant, the key, the counter and the nonce. -/
def initial (key : List UInt8) (counter : Nat) (nonce : List UInt8) : State :=
  ([0x61707865, 0x3320646e, 0x79622d32, 0x6b206574] ++ (blocks 3 key).map littleWord ++
    [UInt32.ofNat counter] ++ (blocks 3 nonce).map littleWord).toArray

/-- The sixteen words in order, whatever the state's size. -/
def words (state : State) : List UInt32 := (List.range 16).map (word state)

def block (key : List UInt8) (counter : Nat) (nonce : List UInt8) : List UInt8 :=
  let before := initial key counter nonce
  let after := Nat.repeat doubleRound 10 before
  (List.zipWith (· + ·) (words before) (words after)).flatMap littleBytes

theorem length_words (state : State) : (words state).length = 16 := by simp [words]

theorem length_flatMap_littleBytes (list : List UInt32) :
    (list.flatMap littleBytes).length = 4 * list.length := by
  induction list with
  | nil => rfl
  | cons word rest ih =>
    simp only [List.flatMap_cons, List.length_append, ih, List.length_cons, littleBytes,
      length_toLittleEndian]
    omega

theorem length_block (key : List UInt8) (counter : Nat) (nonce : List UInt8) :
    (block key counter nonce).length = 64 := by
  simp only [block, length_flatMap_littleBytes, List.length_zipWith, length_words]
  omega

/-- So many blocks of key stream, from the given counter on. -/
def blocksFrom (key nonce : List UInt8) : Nat → Nat → List UInt8
  | _, 0 => []
  | counter, count + 1 => block key counter nonce ++ blocksFrom key nonce (counter + 1) count

theorem length_blocksFrom (key nonce : List UInt8) (counter count : Nat) :
    (blocksFrom key nonce counter count).length = 64 * count := by
  induction count generalizing counter with
  | zero => rfl
  | succ count ih => simp [blocksFrom, length_block, ih]; omega

/-- The text combined with the key stream that begins with the block of counter one. -/
def crypt (key nonce text : List UInt8) : List UInt8 :=
  List.zipWith (· ^^^ ·) text (blocksFrom key nonce 1 (text.length / 64 + 1))

theorem length_crypt (key nonce text : List UInt8) : (crypt key nonce text).length = text.length := by
  simp only [crypt, List.length_zipWith, length_blocksFrom]
  omega

end FleetAgent.Cipher.ChaCha20
