import FleetAgent.Number.Natural
import FleetAgent.Path

/-!
# The command line

The arguments are read from left to right. An option takes its value from the same argument, after an
equals sign, or from the next one, which must not look like an option itself. Every option may be given
once, and the one for queues any number of times. The first argument that does not fit ends the
reading, and so does the wish for help.
-/

namespace FleetAgent

structure Arguments where
  settingsFile : Option Path := none
  identityDir : Option Path := none
  logDir : Option Path := none
  /-- The seconds for a whole sequence of attempts. -/
  maxElapsed : Option Nat := none
  queues : List String := []
  deriving DecidableEq, Repr

inductive Request where
  | run (arguments : Arguments)
  | help
  | refused
  deriving DecidableEq, Repr

namespace CommandLine

def helpLines : List String :=
  ["Fleet agent for the fleetd control plane",
   "",
   "Usage: fleetd-agent [OPTIONS]",
   "",
   "Options:",
   "      --config <CONFIG>",
   "          Settings file (default: $FLEETD_AGENT_CONFIG or /etc/fleetd/agent.yaml)",
   "      --secrets-dir <SECRETS_DIR>",
   "          Directory with the \x60system_id\x60 and \x60secret\x60 files (default: settings file\x27s directory)",
   "      --log-dir <LOG_DIR>",
   "          Also write rotated log files here",
   "      --max-elapsed-secs <MAX_ELAPSED_SECS>",
   "          Give up connecting (and creating the worker pool) after this many seconds [default: 60]",
   "      --queue <QUEUES>",
   "          Extra task queues to register for",
   "  -h, --help",
   "          Print help"]

def helpText : String := String.join (helpLines.map (· ++ "\n"))

def refusal : String :=
  "error: invalid arguments\n\nUsage: fleetd-agent [OPTIONS]\n\nFor more information, try \x27--help\x27.\n"

/-- An option that takes a value. -/
inductive Setting where
  | settingsFile
  | identityDir
  | logDir
  | maxElapsed
  | queue
  deriving DecidableEq, Repr

def Setting.ofName? : String → Option Setting
  | "config" => some .settingsFile
  | "secrets-dir" => some .identityDir
  | "log-dir" => some .logDir
  | "max-elapsed-secs" => some .maxElapsed
  | "queue" => some .queue
  | _ => none

/-- The value of an option that is given for the first time. -/
def first? (old new : Option α) : Option (Option α) :=
  match old, new with
  | none, some value => some (some value)
  | _, _ => none

def pathOf? (text : String) : Option Path := if text = "" then none else some (.ofString text)

/-- The arguments with a value for an option, unless the option has one or the value does not fit. -/
def Setting.give? (arguments : Arguments) (value : String) : Setting → Option Arguments
  | .settingsFile =>
    (first? arguments.settingsFile (pathOf? value)).map ({ arguments with settingsFile := · })
  | .identityDir =>
    (first? arguments.identityDir (pathOf? value)).map ({ arguments with identityDir := · })
  | .logDir => (first? arguments.logDir (pathOf? value)).map ({ arguments with logDir := · })
  | .maxElapsed =>
    (first? arguments.maxElapsed (Number.word64? value.toList)).map ({ arguments with maxElapsed := · })
  | .queue => some { arguments with queues := arguments.queues ++ [value] }

inductive Word where
  | help
  /-- After it there are no more options. -/
  | ending
  /-- An option whose value is the next argument. -/
  | awaiting (setting : Setting)
  | assigned (setting : Setting) (value : String)
  | unknown
  deriving DecidableEq, Repr

/-- An argument that begins with two dashes, without them. -/
def Word.ofLong (chars : List Char) : Word :=
  let name := String.ofList (chars.takeWhile (· ≠ '='))
  match chars.dropWhile (· ≠ '=') with
  | [] =>
    if chars = [] then .ending
    else if name = "help" then .help
    else match Setting.ofName? name with
      | some setting => .awaiting setting
      | none => .unknown
  | _ :: value =>
    match Setting.ofName? name with
    | some setting => .assigned setting (String.ofList value)
    | none => .unknown

def Word.of (argument : String) : Word :=
  match argument.toList with
  | '-' :: '-' :: chars => .ofLong chars
  | '-' :: 'h' :: _ => .help
  | _ => .unknown

/-- The argument looks like an option and cannot be a value. -/
def looksLikeOption (argument : String) : Bool := argument.startsWith "-" && argument ≠ "-"

/-- Reads the arguments that are left. -/
def read (arguments : Arguments) : List String → Request
  | [] => .run arguments
  | argument :: rest =>
    match Word.of argument with
    | .help => .help
    | .ending => if rest = [] then .run arguments else .refused
    | .assigned setting value =>
      match setting.give? arguments value with
      | some arguments => read arguments rest
      | none => .refused
    | .awaiting setting =>
      match rest with
      | [] => .refused
      | value :: rest =>
        if looksLikeOption value then .refused
        else match setting.give? arguments value with
          | some arguments => read arguments rest
          | none => .refused
    | .unknown => .refused

end CommandLine

/-- Reads a command line without the name of the program. -/
def Request.ofArguments (arguments : List String) : Request := CommandLine.read {} arguments

end FleetAgent
