/-!
# Whole numbers in decimal digits

A whole number is written with one digit or more, after a plus sign if there is one, and has to fit
into a word of sixty-four bits.
-/

namespace FleetAgent.Number

def withoutPlus : List Char → List Char
  | '+' :: digits => digits
  | digits => digits

/-- The number that the digits spell. -/
def word64? (chars : List Char) : Option Nat :=
  let digits := withoutPlus chars
  if digits ≠ [] ∧ digits.all Char.isDigit then
    (some (Nat.ofDigitChars 10 digits 0)).filter (· < UInt64.size)
  else none

end FleetAgent.Number
