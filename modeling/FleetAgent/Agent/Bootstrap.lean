import FleetAgent.Control.Connecting
import FleetAgent.Control.Pool
import FleetAgent.Settings.Store

/-!
# Bootstrap

The agent comes up in stages: it reads its settings, derives its key, connects to the control plane and
registers its pool. Each stage begins only when the one before has succeeded, and the first failure
ends the bootstrap.
-/

namespace FleetAgent

inductive BootstrapError where
  | settings (error : StoreError)
  | key (fault : Codec.KeyFault)
  | connect (error : Control.RetryError Control.ConnectError)
  | pool (error : Control.RetryError Control.PoolError)
  | signals (reason : String)

namespace BootstrapError

def stage : BootstrapError → String
  | settings _ => "config"
  | key _ => "codec"
  | connect _ => "connect"
  | pool _ => "worker_pool"
  | signals _ => "signals"

def message : BootstrapError → String
  | settings error => "configuration error: " ++ error.message
  | key fault => "invalid payload codec key: " ++ (Codec.CodecError.invalidKeyMaterial fault.message).message
  | connect error =>
    "control-plane connection retries exhausted: " ++ error.message Control.ConnectError.message
  | pool error => "worker pool retries exhausted: " ++ error.message Control.PoolError.message
  | signals reason => "failed to install signal handlers: " ++ reason

end BootstrapError

structure AgentOptions where
  settingsFile : Path
  /-- The directory of the identity files, if it is not the one of the settings file. -/
  identityDir? : Option Path := none
  backoff : Control.Backoff := {}
  port : UInt16 := Control.defaultPort
  /-- The directory for the pid file; there is none without it. -/
  pidDir? : Option Path := none
  registrar : Control.Registrar := {}

def AgentOptions.identityDir (options : AgentOptions) : Path :=
  options.identityDir?.getD options.settingsFile.directory

/-- What happens around an agent: how dials go, what the other side of the connection does, the random
numbers for the two sequences of attempts, the number of the process, and after how many attempts the
sequences are no longer looked at. -/
structure Surroundings where
  dialer : Control.Dialer
  wire : Control.Wire
  connectDraws : Nat → Float := fun _ ↦ 0.5
  poolDraws : Nat → Float := fun _ ↦ 0.5
  pid : Nat := 1
  fuel : Nat

structure World where
  host : Host
  now : Moment := 0
  dials : List Control.Dial := []
  /-- The connection, once there is one. -/
  link? : Option Control.Link := none

/-- Why an activity does not go on. -/
inductive Halt where
  | failed (error : BootstrapError)
  /-- The agent broke down. -/
  | broken
  /-- It goes on beyond what was looked at. -/
  | unfinished

/-- An activity of the agent. -/
abbrev AgentM (α : Type) := ExceptT Halt (StateM World) α

/-- An agent that has come up. -/
structure Agent where
  store : Store
  identity : Control.Identity
  pool : Control.Pool

namespace Agent

def name : String := "fleetd-agent"

def fail (error : BootstrapError) : AgentM α := throw (.failed error)

def onHost (wrap : ε → BootstrapError) (act : HostM ε α) : AgentM α := fun world ↦
  match act world.host with
  | (.ok value, host) => (.ok value, { world with host })
  | (.error error, host) => (.error (.failed (wrap error)), { world with host })

def report (events : List Log.Event) : AgentM Unit := fun world ↦
  (.ok (), { world with host := { world.host with log := events.reverse ++ world.host.log } })

/-- Goes on when a sequence of attempts has succeeded. -/
def settle (wrap : Control.RetryError ε → BootstrapError) : Control.Verdict ε α → AgentM α
  | .success value => return value
  | .failure error => fail (wrap error)
  | .broken => throw .broken
  | .unfinished => throw .unfinished

/-- Connects to the control plane; gives the address of the connection. -/
def connect (options : AgentOptions) (around : Surroundings) (settings : Settings) : AgentM String := do
  let world ← get
  let connecting := Control.connect settings.controllers options.port options.backoff around.connectDraws
    around.dialer world.now around.fuel
  set { world with now := connecting.moment, dials := connecting.dials }
  report connecting.events
  settle .connect connecting.verdict

/-- Registers the pool over a new connection. -/
def register (options : AgentOptions) (around : Surroundings) (identity : Control.Identity)
    (key : Codec.Key) (target : String) : AgentM Control.Pool := do
  let world ← get
  let link : Control.Link := { target, key := some key, wire := around.wire }
  let registering := options.registrar.register identity world.host.tree options.backoff around.poolDraws
    world.now around.fuel { link }
  let trial := registering.trial
  set { world with now := trial.moment, link? := some trial.state.link }
  report registering.events
  settle .pool trial.verdict

/-- Reads the settings, derives the key, connects and registers. -/
def bootstrap (options : AgentOptions) (around : Surroundings) : AgentM Agent := do
  let store ← onHost .settings (Store.openFile options.settingsFile options.identityDir)
  let settings := store.settings
  match Codec.Key.ofSecret settings.secret with
  | .error fault => fail (.key fault)
  | .ok key =>
    let identity : Control.Identity := ⟨settings.systemId, settings.clusterId⟩
    let target ← connect options around settings
    let pool ← register options around identity key target
    return { store, identity, pool }

/-- Stops the pool and lets the connection go. -/
def stop (agent : Agent) : AgentM Unit := do
  let world ← get
  match world.link? with
  | some link =>
    let (events, link) := agent.pool.stop world.now world.host.tree link
    set { world with link? := some link }
    report events
  | none => return

end Agent

end FleetAgent
