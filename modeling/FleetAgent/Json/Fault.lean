import FleetAgent.Found

/-!
# Faults in messages

A message is a text of bytes in the JSON notation. A fault in it is a reason together with a place, and
a place is told by the text that lies behind it; only what is reported in the end has a line and a
column.
-/

namespace FleetAgent.Json

abbrev Bytes := List UInt8

inductive Category where
  /-- The text ends too early. -/
  | cutShort
  /-- The text is not in the notation. -/
  | illFormed
  /-- The text is in the notation, but what it says has no place where it stands. -/
  | unfit
  deriving DecidableEq, Repr

inductive Reason where
  | endInList
  | endInObject
  | endInString
  | endInValue
  | expectedColon
  | expectedListEnd
  | expectedObjectEnd
  | expectedWord
  | expectedValue
  | badEscape
  | badNumber
  | outOfRange
  | badText
  | controlCharacter
  | keyNotText
  | loneSurrogate
  | halfSurrogate
  | trailingComma
  | trailing
  | invalidType (found : Found) (expected : String)
  | invalidValue (found : Found) (expected : String)
  | invalidLength (count : Nat) (expected : String)
  | missingField (name : String)
  | duplicateField (name : String)

/-- How the notation reports what it found: with an exponent on very large and very small fractions. -/
def wording : Found.Wording := ⟨"null", ⟨some 16, some (-5), "inf", "NaN"⟩⟩

namespace Reason

def category : Reason → Category
  | endInList | endInObject | endInString | endInValue => .cutShort
  | invalidType .. | invalidValue .. | invalidLength .. | missingField _ | duplicateField _ => .unfit
  | _ => .illFormed

def message : Reason → String
  | endInList => "EOF while parsing a list"
  | endInObject => "EOF while parsing an object"
  | endInString => "EOF while parsing a string"
  | endInValue => "EOF while parsing a value"
  | expectedColon => "expected \x60:\x60"
  | expectedListEnd => "expected \x60,\x60 or \x60]\x60"
  | expectedObjectEnd => "expected \x60,\x60 or \x60\x7d\x60"
  | expectedWord => "expected ident"
  | expectedValue => "expected value"
  | badEscape => "invalid escape"
  | badNumber => "invalid number"
  | outOfRange => "number out of range"
  | badText => "invalid unicode code point"
  | controlCharacter => "control character (\\u0000-\\u001F) found while parsing a string"
  | keyNotText => "key must be a string"
  | loneSurrogate => "lone leading surrogate in hex escape"
  | halfSurrogate => "unexpected end of hex escape"
  | trailingComma => "trailing comma"
  | trailing => "trailing characters"
  | invalidType found expected => "invalid type: " ++ found.describe wording ++ ", expected " ++ expected
  | invalidValue found expected =>
    "invalid value: " ++ found.describe wording ++ ", expected " ++ expected
  | invalidLength count expected => "invalid length " ++ toString count ++ ", expected " ++ expected
  | missingField name => "missing field " ++ Found.accented name
  | duplicateField name => "duplicate field " ++ Found.accented name

end Reason

/-- A fault; the place, if it is known yet, is where the given text begins. -/
structure Fault where
  reason : Reason
  behind : Option Bytes

structure Malformed where
  reason : Reason
  line : Nat
  column : Nat

def Malformed.message (fault : Malformed) : String :=
  fault.reason.message ++ " at line " ++ toString fault.line ++ " column " ++ toString fault.column

def lineFeed : UInt8 := 0x0A

/-- The fault as reported about a whole text: lines are counted from one, and the column is the number
of bytes before the place on its line. -/
def Fault.within (text : Bytes) (fault : Fault) : Malformed :=
  let before := text.take (text.length - (fault.behind.getD []).length)
  ⟨fault.reason, 1 + before.count lineFeed, (before.reverse.takeWhile (· ≠ lineFeed)).length⟩

end FleetAgent.Json
