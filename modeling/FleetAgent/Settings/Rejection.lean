import FleetAgent.Found
import FleetAgent.Yaml.Meaning
import FleetAgent.Yaml.Node

/-!
# Why settings are rejected

A settings text either makes no sense as a document, or it holds something that the settings have no
place for. What is found there, what was expected, in which field and at which place in the text, is
told to whoever wrote it.
-/

namespace FleetAgent

/-- How the notation of the settings reports what it found. -/
def settingsWording : Found.Wording := ⟨"unit value", Yaml.fractionNotation⟩

/-- A meaning as something found. -/
def Found.ofMeaning : Yaml.Meaning → Found
  | .null => .nothing
  | .bool value => .bool value
  | .int value => .int value
  | .float value => .float value

inductive FieldStep where
  | key (name : List Char)
  | index (n : Nat)
  /-- The key is not simply a scalar. -/
  | unnamed
  deriving DecidableEq, Repr

/-- The way from the whole document to a node in it, the last step first. -/
abbrev FieldPath := List FieldStep

/-- The written form of the way; the whole document has none. -/
def FieldPath.toChars : FieldPath → List Char
  | [] => []
  | .index n :: above => toChars above ++ '[' :: Nat.toDigits 10 n ++ [']']
  | step :: above =>
    let name := match step with
      | .key name => name
      | _ => ['?']
    let before := toChars above
    if above.isEmpty then name else before ++ '.' :: name

inductive Reason where
  | invalidType (found : Found) (expected : String)
  | invalidValue (found : Found) (expected : String)
  | duplicateField (name : String)
  /-- The controllers are neither one text nor a list of texts. -/
  | neitherOneNorMany

def Reason.message : Reason → String
  | .invalidType found expected =>
    "invalid type: " ++ found.describe settingsWording ++ ", expected " ++ expected
  | .invalidValue found expected =>
    "invalid value: " ++ found.describe settingsWording ++ ", expected " ++ expected
  | .duplicateField name => "duplicate field " ++ Found.accented name
  | .neitherOneNorMany => "data did not match any variant of untagged enum OneOrMany"

structure Spot where
  path : FieldPath
  mark : Yaml.Mark

/-- Something that the settings have no place for. The spot is added by the innermost field that knows
it. -/
structure Rejection where
  reason : Reason
  spot : Option Spot := none

/-- The place in the text, unless it is its very beginning. -/
def Spot.position (spot : Spot) : String :=
  if spot.mark.line = 0 ∧ spot.mark.column = 0 then ""
  else " at line " ++ toString (spot.mark.line + 1) ++ " column " ++ toString (spot.mark.column + 1)

def Rejection.message (rejection : Rejection) : String :=
  match rejection.spot with
  | none => rejection.reason.message
  | some spot =>
    let path := String.ofList spot.path.toChars
    (if path.isEmpty then "" else path ++ ": ") ++ rejection.reason.message ++ spot.position

/-- Why a settings text gives no settings. -/
inductive SettingsFault where
  /-- The text is no single document, or more involved than settings may be. -/
  | unreadable
  | rejected (rejection : Rejection)

end FleetAgent
