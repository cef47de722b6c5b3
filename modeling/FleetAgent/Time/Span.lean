/-!
# Spans of time

A span is a whole number of nanoseconds. The longest span has as many seconds as a word of sixty-four
bits can count and all but one nanosecond of another. A span shows in the largest unit in which it is
at least one, with the digits of the fraction that are needed.
-/

namespace FleetAgent

structure Span where
  nanos : Nat
  deriving DecidableEq, Repr, Inhabited

namespace Span

def perSecond : Nat := 1000000000

def perMilli : Nat := 1000000

def longest : Span := ⟨UInt64.size * perSecond - 1⟩

def zero : Span := ⟨0⟩

def ofSeconds (count : Nat) : Span := ⟨perSecond * count⟩

def ofMillis (count : Nat) : Span := ⟨perMilli * count⟩

/-- The whole milliseconds in the span, in a word of sixty-four bits. -/
def millis (span : Span) : UInt64 := (span.nanos / perMilli).toUInt64

def least (a b : Span) : Span := ⟨min a.nanos b.nanos⟩

/-- One span after the other, if a span can be as long as that, and else the longest one. -/
def plus (a b : Span) : Span := least ⟨a.nanos + b.nanos⟩ longest

/-- So many digits of a fraction, without the zeros at their end. -/
def fractionDigits (width fraction : Nat) : List Char :=
  let digits := Nat.toDigits 10 fraction
  let full := List.replicate (width - digits.length) '0' ++ digits
  (full.reverse.dropWhile (· = '0')).reverse

/-- The count of units of `10 ^ width` nanoseconds. -/
def countOf (nanos width : Nat) (unitName : String) : String :=
  let fraction := fractionDigits width (nanos % Nat.pow 10 width)
  let point := if fraction = [] then [] else '.' :: fraction
  toString (nanos / Nat.pow 10 width) ++ String.ofList point ++ unitName

def toString (span : Span) : String :=
  if perSecond ≤ span.nanos then countOf span.nanos 9 "s"
  else if perMilli ≤ span.nanos then countOf span.nanos 6 "ms"
  else if 1000 ≤ span.nanos then countOf span.nanos 3 "µs"
  else countOf span.nanos 0 "ns"

instance : ToString Span := ⟨Span.toString⟩

end Span

end FleetAgent
