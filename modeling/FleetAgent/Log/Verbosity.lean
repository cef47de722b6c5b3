import FleetAgent.Log.Event
import FleetAgent.Text.Strip

/-!
# Verbosity

The verbosity says up to which level of detail events are reported. It is chosen by a name, whose case
and surrounding blanks do not matter; a name that means nothing is kept, so that it can be reported,
and counts as the default.
-/

namespace FleetAgent.Log

/-- The most detailed level that is still reported, if any. -/
inductive Verbosity where
  | off
  | upTo (level : Level)
  deriving DecidableEq, Repr

namespace Verbosity

def detail : Verbosity → Nat
  | off => 0
  | upTo level => level.detail

def admits (verbosity : Verbosity) (level : Level) : Bool := level.detail ≤ verbosity.detail

def name : Verbosity → String
  | off => "off"
  | upTo level => Text.lowerAscii level.name

end Verbosity

def defaultVerbosity : Verbosity := .upTo .info

/-- The outcome of choosing a verbosity by name. -/
inductive Choice where
  | known (verbosity : Verbosity)
  | unknown (name : String)
  deriving DecidableEq, Repr

namespace Choice

/-- The verbosity of a name without blanks and capitals. -/
def verbosityNamed? : String → Option Verbosity
  | "trace" => some (.upTo .trace)
  | "debug" => some (.upTo .debug)
  | "info" | "" => some (.upTo .info)
  | "warn" | "warning" => some (.upTo .warn)
  | "error" | "fatal" | "panic" => some (.upTo .error)
  | "off" | "disabled" => some .off
  | _ => none

/-- The choice that a name makes; no name chooses the default. -/
def ofName? : Option String → Choice
  | none => .known defaultVerbosity
  | some name =>
    match verbosityNamed? (Text.lowerAscii (Text.strip name)) with
    | some verbosity => .known verbosity
    | none => .unknown name

def verbosity : Choice → Verbosity
  | .known verbosity => verbosity
  | .unknown _ => defaultVerbosity

/-- The name that was passed over for the default, unless directives decide instead. -/
def ignored? (directed : Bool) : Choice → Option String
  | .unknown name => if directed then none else some name
  | .known _ => none

end Choice

end FleetAgent.Log
