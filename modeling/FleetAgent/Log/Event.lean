import FleetAgent.Text.Quoted

/-!
# Log events

What the agent reports is a sequence of events. An event has a level, the part of the agent that it
comes from, a message and named values. A value is either a text that the written form quotes, or one
that shows as it is.
-/

namespace FleetAgent.Log

inductive Level where
  | error
  | warn
  | info
  | debug
  | trace
  deriving DecidableEq, Repr

namespace Level

/-- Five for the most detailed level and one for the gravest. -/
def detail : Level → Nat
  | error => 1
  | warn => 2
  | info => 3
  | debug => 4
  | trace => 5

def name : Level → String
  | error => "ERROR"
  | warn => "WARN"
  | info => "INFO"
  | debug => "DEBUG"
  | trace => "TRACE"

end Level

inductive Value where
  /-- A text that the written form puts in quotes. -/
  | text (value : String)
  /-- A value that shows as it is. -/
  | shown (value : String)
  deriving DecidableEq, Repr

namespace Value

/-- The value without quotes. -/
def plain : Value → String
  | text value => value
  | shown value => value

/-- The value as a line of the log shows it. -/
def written : Value → String
  | text value => Text.quoted value
  | shown value => value

end Value

structure Event where
  level : Level
  target : String
  message : String
  fields : List (String × Value) := []
  deriving DecidableEq, Repr

/-- The event on one line, after the time of its report. -/
def Event.line (time : String) (event : Event) : String :=
  let level := event.level.name
  let gap := if level.length < 5 then " " else ""
  let fields := event.fields.map fun field ↦ " " ++ field.1 ++ "=" ++ field.2.written
  time ++ " " ++ gap ++ level ++ " " ++ event.target ++ ": " ++ event.message ++ String.join fields ++ "\n"

end FleetAgent.Log
