import FleetAgent.Text.Quoted

/-!
# Hexadecimal text for bytes

Two digits stand for one byte, the high half first. Reading accepts both cases of the digits and
says why it refuses a text: first of all an odd number of digits, then the first byte that is no
digit.
-/

namespace FleetAgent.Text.Hex

inductive Fault where
  | oddLength
  | notADigit (byte : UInt8) (index : Nat)
  deriving DecidableEq, Repr

def Fault.message : Fault → String
  | .oddLength => "Odd number of digits"
  | .notADigit byte index =>
    "Invalid character " ++ quotedChar (Char.ofNat byte.toNat) ++ " at position " ++ toString index

def digit? (byte : UInt8) : Option UInt8 :=
  if 48 ≤ byte ∧ byte ≤ 57 then some (byte - 48)
  else if 97 ≤ byte ∧ byte ≤ 102 then some (byte - 87)
  else if 65 ≤ byte ∧ byte ≤ 70 then some (byte - 55)
  else none

/-- Reads digits in pairs; `index` is the position of the first of them in the whole text. -/
def readPairs (index : Nat) : List UInt8 → Except Fault (List UInt8)
  | high :: low :: rest =>
    match digit? high, digit? low with
    | none, _ => .error (.notADigit high index)
    | some _, none => .error (.notADigit low (index + 1))
    | some h, some l => (readPairs (index + 2) rest).map ((h * 16 + l) :: ·)
  | _ => .ok []

/-- The bytes that a text stands for. -/
def read (text : List UInt8) : Except Fault (List UInt8) :=
  if text.length % 2 = 1 then .error .oddLength else readPairs 0 text

def digitOf (value : UInt8) : Char :=
  Char.ofNat (if value < 10 then 48 + value.toNat else 87 + value.toNat)

/-- Two lower-case digits for each byte. -/
def write (bytes : List UInt8) : String :=
  String.ofList (bytes.flatMap fun byte ↦ [digitOf (byte / 16), digitOf (byte % 16)])

end FleetAgent.Text.Hex
