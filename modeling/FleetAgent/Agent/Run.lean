import FleetAgent.Agent.Bootstrap
import FleetAgent.Agent.PidFile
import FleetAgent.Agent.Shutdown

/-!
# A run of the agent

An agent that has come up prepares for signals, writes its pid file, works until it is asked to stop,
announces its departure and removes the pid file. A run ends with the exit code zero when the agent
came up and could prepare for signals, and with one otherwise, after the failure has been reported.
-/

namespace FleetAgent

/-- How an agent comes to stop once it has prepared for signals: after some time there is a signal, or
the trigger is dropped without one, or nothing of the kind ever happens. -/
abbrev StopPlan := Course (Option Signal)

namespace Agent

def failed (error : BootstrapError) : Log.Event :=
  ⟨.error, "fleetd_agent", "Agent bootstrap failed",
    [("stage", .text error.stage), ("error", .shown error.message)]⟩

def pidFileFailed (directory : Path) (fault : FileError) : Log.Event :=
  ⟨.warn, "fleetd_agent", "Could not write pid file",
    [("dir", .shown directory.toString), ("error", .shown fault.message)]⟩

def started (agent : Agent) : Log.Event :=
  ⟨.info, "fleetd_agent", "Agent started",
    [("system_id", .shown agent.identity.systemId),
     ("task_queues", .shown (Text.quotedList agent.pool.queues))]⟩

def stopped : Log.Event := ⟨.info, "fleetd_agent", "Agent stopped", []⟩

/-- Writes the pid file as far as possible. -/
def writePidFile (options : AgentOptions) (pid : Nat) : AgentM (Option PidFile) := do
  match options.pidDir? with
  | none => return none
  | some directory =>
    match ← onHost Empty.elim (Host.outcome (PidFile.create directory name pid)) with
    | .ok file => return some file
    | .error fault =>
      report [pidFileFailed directory fault]
      return none

def work (plan : StopPlan) : AgentM Unit := do
  match plan with
  | .never => throw .unfinished
  | .after millis signal? =>
    modify fun world ↦ { world with now := world.now + millis }
    report (Waited.ofSignal? signal?).events

/-- What follows when the agent has come up and prepared for signals. -/
def serve (agent : Agent) (options : AgentOptions) (around : Surroundings) (plan : StopPlan) :
    AgentM Unit := do
  let file? ← writePidFile options around.pid
  report [agent.started]
  work plan
  agent.stop
  report [stopped]
  match file? with
  | some file => onHost Empty.elim file.drop
  | none => return

/-- The failure to prepare for signals is reported, and the agent stops. -/
def abandon (agent : Agent) (reason : String) : AgentM Unit := do
  report [failed (.signals reason)]
  agent.stop

structure Ran where
  /-- The exit code, if the run has come to an exit. -/
  exit? : Option UInt8
  /-- The run came to prepare for signals. -/
  prepared : Bool
  world : World

/-- Runs the agent; `preparing` is how it goes to prepare for signals. -/
def run (options : AgentOptions) (around : Surroundings) (preparing : Except String StopPlan)
    (host : Host) : Ran :=
  match bootstrap options around { host } with
  | (.error (.failed error), world) => ⟨some 1, false, (report [failed error] world).2⟩
  | (.error _, world) => ⟨none, false, world⟩
  | (.ok agent, world) =>
    match preparing with
    | .error reason => ⟨some 1, true, (agent.abandon reason world).2⟩
    | .ok plan =>
      match agent.serve options around plan world with
      | (.ok _, world) => ⟨some 0, true, world⟩
      | (.error _, world) => ⟨none, true, world⟩

end Agent

end FleetAgent
