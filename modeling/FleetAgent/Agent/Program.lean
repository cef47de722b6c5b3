import FleetAgent.Agent.CommandLine
import FleetAgent.Agent.Run
import FleetAgent.Locations
import FleetAgent.Log.Directive
import FleetAgent.Log.Rotation

/-!
# The program

The program sets up its log, reports that it starts, and runs the agent. What the filter admits is
written on the error stream and, when a directory for it was given, into a rotating file as well. A log
file that cannot be opened ends the program before it has started; one that cannot be written later is
put up with.
-/

namespace FleetAgent

/-- The variables of the environment that the program looks at. -/
structure Environment where
  /-- The name of the verbosity. -/
  verbosity : Option String := none
  /-- Directives, which come before the verbosity. -/
  directives : Option String := none
  settingsFile : Option String := none
  /-- The name of the package instance. -/
  instanceName : Option String := none
  deriving DecidableEq, Repr

namespace Program

/-! ## The log -/

/-- The filter that the environment chooses by directives, if they can be read. -/
def directed? (environment : Environment) : Option Log.Filter := environment.directives.bind Log.Filter.ofText?

def filterOf (environment : Environment) : Log.Filter :=
  (directed? environment).getD (.ofVerbosity (Log.Choice.ofName? environment.verbosity).verbosity)

/-- The report that the name of the verbosity means nothing. -/
def unknownVerbosity (name : String) : Log.Event :=
  ⟨.warn, "fleetd_logging", "Unknown log level, defaulting to " ++ Log.defaultVerbosity.name,
    [("LOG_LEVEL", .shown name)]⟩

def starting (settingsFile : Path) : Log.Event :=
  ⟨.info, "fleetd_agent", "Starting " ++ Agent.name, [("config", .shown settingsFile.toString)]⟩

/-- What is reported before the agent runs. -/
def opening (environment : Environment) (settingsFile : Path) : List Log.Event :=
  let ignored := (Log.Choice.ofName? environment.verbosity).ignored? (directed? environment).isSome
  ignored.toList.map unknownVerbosity ++ [starting settingsFile]

def keptFiles : Nat := 5

def fileLimit : Nat := 10 * 1024 * 1024

def openLog (directory : Option Path) : HostM FileError (Option Log.Rotating) :=
  match directory with
  | none => return none
  | some directory => return some (← Log.Rotating.openLog directory Agent.name keptFiles fileLimit)

/-- Writes one line into the log file as far as possible. -/
def record (line : String) (log : Log.Rotating) : HostM Empty Log.Rotating := do
  match ← Host.outcome (log.write line.toUTF8) with
  | .ok log => return log
  | .error _ => return log

def recordAll (lines : List String) : Option Log.Rotating → HostM Empty (Option Log.Rotating)
  | none => return none
  | some log => return some (← lines.foldlM (fun log line ↦ record line log) log)

/-- The report that there is no log, which goes to the error stream alone. -/
def noLog (directory : Path) (fault : FileError) : String :=
  Agent.name ++ ": Failed to initialize logging: Failed to open log file in " ++ directory.toString ++ ": " ++
    fault.message ++ "\n"

/-! ## Running -/

def settingsFile (arguments : Arguments) (environment : Environment) : Path :=
  arguments.settingsFile.getD (Locations.settingsFile environment.settingsFile)

def optionsOf (arguments : Arguments) (environment : Environment) : AgentOptions where
  settingsFile := settingsFile arguments environment
  identityDir? := arguments.identityDir
  backoff := { maxElapsed := .ofSeconds (arguments.maxElapsed.getD 60) }
  pidDir? := some (Locations.runDir environment.instanceName)
  registrar := { extraQueues := arguments.queues }

/-- The files that the program may read or write before it is connected. -/
def filesOf (arguments : Arguments) (environment : Environment) : List Path :=
  let options := optionsOf arguments environment
  let logs := match arguments.logDir with
    | none => []
    | some directory =>
      let live := Log.Rotating.liveOf directory Agent.name
      live :: (List.range keptFiles).tail.map (Log.Rotating.olderThan live)
  options.settingsFile :: IdentityFile.systemId.path options.identityDir ::
    IdentityFile.secret.path options.identityDir :: logs

/-- What a process leaves behind. -/
structure Left where
  /-- The exit code, if the process has come to an exit. -/
  exit? : Option UInt8
  output : String := ""
  errors : String := ""
  host : Host

/-- Runs the program on a host that has reported nothing yet. All lines of the log begin with the given
time. -/
def run (arguments : Arguments) (environment : Environment) (around : Surroundings)
    (preparing : Except String StopPlan) (time : String) (host : Host) : Left :=
  match openLog arguments.logDir host with
  | (.error fault, host) =>
    { exit? := some 1, errors := noLog (arguments.logDir.getD ⟨[]⟩) fault, host }
  | (.ok log, host) =>
    let linesOf (events : List Log.Event) : List String :=
      (events.filter (filterOf environment).admits).map (·.line time)
    let first := linesOf (opening environment (settingsFile arguments environment))
    let (log, host) := Host.surely (recordAll first log) host
    let ran := Agent.run (optionsOf arguments environment) around preparing host
    let rest := linesOf ran.world.host.events
    let (_, host) := Host.surely (recordAll rest log) ran.world.host
    { exit? := ran.exit?, errors := String.join (first ++ rest), host }

def answer (request : Request) (environment : Environment) (around : Surroundings)
    (preparing : Except String StopPlan) (time : String) (host : Host) : Left :=
  match request with
  | .refused => { exit? := some 2, errors := CommandLine.refusal, host }
  | .help => { exit? := some 0, output := CommandLine.helpText, host }
  | .run arguments => run arguments environment around preparing time host

end Program

end FleetAgent
