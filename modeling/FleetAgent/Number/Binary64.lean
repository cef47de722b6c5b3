/-!
# Binary floating-point numbers

A finite number of sixty-four bits is a whole number times a power of two. This module takes numbers
apart in this way, rounds such products to whole numbers, and reads decimal notation as the nearest
number.
-/

namespace FleetAgent.Number

/-- A quotient rounded to the nearest whole number, a half to the even neighbour. -/
def roundDiv (numerator denominator : Nat) : Nat :=
  let quotient := numerator / denominator
  let twice := 2 * (numerator % denominator)
  if twice < denominator then quotient
  else if denominator < twice then quotient + 1
  else quotient + quotient % 2

/-- The parts of a number: its sign, and its size as `significand * 2 ^ exponent`. -/
structure Parts where
  negative : Bool
  significand : Nat
  exponent : Int
  deriving DecidableEq, Repr

/-- The parts of a finite number. -/
def parts? (x : Float) : Option Parts :=
  let bits := x.toBits.toNat
  let negative : Bool := bits / Nat.pow 2 63 = 1
  let power : Nat := bits / Nat.pow 2 52 % Nat.pow 2 11
  let fraction : Nat := bits % Nat.pow 2 52
  if power = 2047 then none
  else if power = 0 then some ⟨negative, fraction, -1074⟩
  else some ⟨negative, fraction + Nat.pow 2 52, (power : Int) - 1075⟩

def Parts.scaled (parts : Parts) (factor : Nat) : Nat :=
  if 0 ≤ parts.exponent then parts.significand * Nat.pow 2 parts.exponent.toNat * factor
  else roundDiv (parts.significand * factor) (Nat.pow 2 (-parts.exponent).toNat)

/-! ## Reading decimal notation -/

/-- Digits with a point and an exponent, as a whole number times a power of ten. -/
structure Decimal where
  digits : Nat
  exponent : Int
  deriving DecidableEq, Repr

def digitsValue (digits : List Char) : Nat := digits.foldl (fun n c ↦ n * 10 + (c.toNat - 48)) 0

def signedDigits? (chars : List Char) : Option Int :=
  let (negative, digits) := match chars with
    | '-' :: rest => (true, rest)
    | '+' :: rest => (false, rest)
    | _ => (false, chars)
  if digits.isEmpty || !digits.all Char.isDigit then none
  else some (if negative then -(digitsValue digits : Int) else digitsValue digits)

/-- Decimal notation without a sign: digits, of which some stand before or behind a point, and perhaps
an exponent. -/
def decimal? (chars : List Char) : Option Decimal :=
  let whole := chars.takeWhile Char.isDigit
  let rest := chars.dropWhile Char.isDigit
  let (fraction, rest) := match rest with
    | '.' :: more => (more.takeWhile Char.isDigit, more.dropWhile Char.isDigit)
    | _ => ([], rest)
  if whole.isEmpty && fraction.isEmpty then none
  else
    let digits := digitsValue (whole ++ fraction)
    match rest with
    | [] => some ⟨digits, -(fraction.length : Int)⟩
    | e :: power =>
      if e = 'e' ∨ e = 'E' then
        (signedDigits? power).map fun power ↦ ⟨digits, power - fraction.length⟩
      else none

/-- The nearest number, or infinity when that is nearer than any finite number. -/
def Decimal.toFloat (decimal : Decimal) : Float :=
  -- The size of the number lies between the powers of ten with these exponents.
  let size : Int := decimal.exponent + (Nat.toDigits 10 decimal.digits).length
  if decimal.digits = 0 ∨ size < -400 then 0
  else if 400 < size then 1 / 0
  else if 0 ≤ decimal.exponent then Float.ofScientific decimal.digits false decimal.exponent.toNat
  else Float.ofScientific decimal.digits true (-decimal.exponent).toNat

end FleetAgent.Number
