import FleetAgent.Number.Shortest
import FleetAgent.Text.Quoted

/-!
# What was found instead

A document of any notation holds values of a few kinds. When one of them stands where another was
expected, a report says what was found. The notations differ only in the word for nothing and in how
they write fractions.
-/

namespace FleetAgent

/-- What a document holds where something else was expected. -/
inductive Found where
  | text (value : List Char)
  | bool (value : Bool)
  | int (value : Int)
  | float (value : Float)
  | nothing
  | sequence
  | mapping

namespace Found

/-- How a notation writes what it reports. -/
structure Wording where
  nothing : String
  fraction : Number.Notation

/-- The width of a number that does not fit into sixty-four bits. -/
def wide (value : Int) : String :=
  if UInt64.size ≤ value then " as u128" else if value < -(Nat.pow 2 63 : Nat) then " as i128" else ""

/-- The text between grave accents. -/
def accented (text : String) : String := "\x60" ++ text ++ "\x60"

def describe (wording : Wording) : Found → String
  | text value => "string " ++ String.ofList (Text.quotedChars value)
  | bool value => "boolean " ++ accented (if value then "true" else "false")
  | int value => "integer " ++ accented (toString value) ++ wide value
  | float value => "floating point " ++ accented (Number.text wording.fraction value)
  | nothing => wording.nothing
  | sequence => "sequence"
  | mapping => "map"

end Found

end FleetAgent
