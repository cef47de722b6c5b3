import FleetAgent.Json.Reader

/-!
# Numbers in messages

A number is whole when it is written without a point and an exponent and fits into sixty-four bits.
Any other number is a fraction, whose first digits, as many as fit into sixty-four bits, are scaled by
a power of ten.
-/

namespace FleetAgent.Json

open Reader

inductive Number where
  | natural (value : UInt64)
  /-- A number below zero. -/
  | negative (value : Int)
  | fraction (value : Float)

def isDigit (byte : UInt8) : Bool := 0x30 ≤ byte && byte ≤ 0x39

def isExponent (byte : UInt8) : Bool := byte == 0x65 || byte == 0x45

def digitValue (byte : UInt8) : Nat := byte.toNat - 0x30

def digitsOf (n : Nat) : Bytes := (Nat.toDigits 10 n).map fun c ↦ c.toNat.toUInt8

/-! ## Scaling -/

/-- The first digits of a number, and how many powers of ten it has beyond them. -/
structure Scaled where
  digits : Nat
  power : Int

namespace Scaled

/-- One more digit in front of the power's place, unless there is no room for it. -/
def push? (scaled : Scaled) (byte : UInt8) : Option Nat :=
  let digits := scaled.digits * 10 + digitValue byte
  if digits < UInt64.size then some digits else none

def whole (scaled : Scaled) : Bytes → Scaled
  | [] => scaled
  | byte :: rest =>
    match scaled.push? byte with
    | some digits => whole { scaled with digits } rest
    | none => { scaled with power := scaled.power + (rest.length + 1) }

theorem whole_cons (scaled : Scaled) (byte : UInt8) (rest : Bytes) :
    scaled.whole (byte :: rest) =
      match scaled.push? byte with
      | some digits => whole { scaled with digits } rest
      | none => { scaled with power := scaled.power + (rest.length + 1) } := (rfl)

/-- Takes in the digits behind the point. -/
def behindPoint (scaled : Scaled) : Bytes → Scaled
  | [] => scaled
  | byte :: rest =>
    match scaled.push? byte with
    | some digits => behindPoint ⟨digits, scaled.power - 1⟩ rest
    | none => scaled

/-- A power of ten, up to the greatest that is a finite number. -/
def tenTo (n : Nat) : Float := Float.ofScientific 1 false n

/-- The number, which is scaled in steps of at most three hundred and eight powers; `none` when it is
too large. Four steps bring every number down to zero. -/
def scale : Nat → Float → Int → Option Float
  | steps, value, power =>
    if power.natAbs ≤ 308 then
      if 0 ≤ power then
        let scaled := value * tenTo power.natAbs
        if scaled.isInf then none else some scaled
      else some (value / tenTo power.natAbs)
    else if value == 0 then some value
    else if 0 ≤ power then none
    else match steps with
      | 0 => some 0
      | steps + 1 => scale steps (value / tenTo 308) (power + 308)

def toFloat? (scaled : Scaled) : Option Float := scale 4 (scaled.digits.toUInt64.toFloat) scaled.power

end Scaled

/-! ## Reading -/

def digits : Reader Bytes := fun text ↦ (.ok (text.takeWhile isDigit), text.dropWhile isDigit)

/-- The largest exponent that is told apart from larger ones. -/
def exponentLimit : Nat := Nat.pow 2 31

/-- Goes on with the digits of an exponent. A huge exponent is zero or out of range. -/
def exponentOnto (negative : Bool) (isZero : Bool) : Nat → Bytes → Except Fault (Option Nat × Bytes)
  | value, byte :: rest =>
    if isDigit byte then
      let value := value * 10 + digitValue byte
      if value < exponentLimit then exponentOnto negative isZero value rest
      else if isZero || negative then .ok (none, rest.dropWhile isDigit)
      else .error ⟨.outOfRange, some rest⟩
    else .ok (some value, byte :: rest)
  | value, [] => .ok (some value, [])

/-- Takes a sign, and says whether it is a minus sign. -/
def sign : Reader Bool := do
  match ← next? with
  | some 0x2B => advance; return false
  | some 0x2D => advance; return true
  | _ => return false

/-- The fraction that the digits make with the exponent that follows. -/
def readExponent (scaled : Scaled) : Reader Float := do
  advance
  let negative ← sign
  match ← next? with
  | none => failHere .endInValue
  | some byte =>
    if !isDigit byte then
      advance
      failHere .badNumber
    match ← ofFunction (exponentOnto negative (scaled.digits = 0) 0) with
    | none => return 0
    | some exponent =>
      let power := if negative then scaled.power - exponent else scaled.power + exponent
      match { scaled with power }.toFloat? with
      | some value => return value
      | none => failHere .outOfRange

/-- The fraction that the digits make with what follows, from the exponent on. -/
def readScaled (scaled : Scaled) : Reader Float := do
  if (← next?).any isExponent then readExponent scaled
  else match scaled.toFloat? with
    | some value => return value
    | none => failHere .outOfRange

/-- Takes the point and the digits behind it. -/
def readPoint (scaled : Scaled) : Reader Float := do
  advance
  let behind ← digits
  if behind.isEmpty then
    match ← next? with
    | some _ => failNext .badNumber
    | none => failHere .endInValue
  readScaled (scaled.behindPoint behind)

/-- A whole number, or the fraction that comes nearest to it. -/
def wholeNumber (isNegative : Bool) (size : Nat) : Number :=
  if !isNegative then .natural size.toUInt64
  else if size = 0 ∨ Nat.pow 2 63 < size then .fraction (-size.toUInt64.toFloat)
  else .negative (-(size : Int))

/-- Takes the digits before the point; a zero stands alone. -/
def readWhole : Reader Bytes := do
  match ← next? with
  | none => failHere .endInValue
  | some byte =>
    if !isDigit byte then
      advance
      failHere .badNumber
    if byte = 0x30 then
      advance
      if (← next?).any isDigit then failNext .badNumber
      return [byte]
    digits

/-- Takes a number whose minus sign, if any, has been taken. -/
def readNumber (isNegative : Bool) : Reader Number := do
  let scaled := Scaled.whole ⟨0, 0⟩ (← readWhole)
  let signed (value : Float) : Number := .fraction (if isNegative then -value else value)
  let next ← next?
  if next = some 0x2E then return signed (← readPoint scaled)
  else if scaled.power = 0 ∧ !next.any isExponent then return wholeNumber isNegative scaled.digits
  else return signed (← readScaled scaled)

/-! ## Passing over -/

def skipExponent : Reader Unit := do
  advance
  let _ ← sign
  match ← next? with
  | none => failHere .badNumber
  | some byte =>
    advance
    if isDigit byte then
      let _ ← digits
    else failHere .badNumber

def skipNumber : Reader Unit := do
  match ← next? with
  | none => failHere .badNumber
  | some _ => let _ ← readWhole
  match ← next? with
  | some 0x2E =>
    advance
    if (← digits).isEmpty then failNext .badNumber
    if (← next?).any isExponent then skipExponent
  | some byte => if isExponent byte then skipExponent
  | none => return

end FleetAgent.Json
