import FleetAgent.Path

/-!
# Well-known locations

Where the agent finds its files unless it is told otherwise. A variable of the environment that is set
to nothing counts as not set.
-/

namespace FleetAgent.Locations

def nonEmpty? (value : Option String) : Option String := value.filter fun text ↦ !text.isEmpty

/-- The settings file, from the value of `FLEETD_AGENT_CONFIG`. -/
def settingsFile (chosen : Option String) : Path :=
  match nonEmpty? chosen with
  | some path => .ofString path
  | none => .ofString "/etc/fleetd/agent.yaml"

/-- The directory for the pid file, from the name of the package instance. -/
def runDir (instanceName : Option String) : Path :=
  match nonEmpty? instanceName with
  | some name => .ofString ("/run/snap." ++ name)
  | none => .ofString "/run/fleetd"

/-- The directory for certificates, from the data directory of the package. -/
def certificatesDir (dataDir : Option String) : Path :=
  let base := match nonEmpty? dataDir with
    | some dir => Path.ofString dir
    | none => Path.ofString "/var/lib/fleetd"
  base.join (.ofString "certificates")

end FleetAgent.Locations
