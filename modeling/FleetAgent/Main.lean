import FleetAgent.Agent.Program
import FleetAgent.Time.Stamp

/-!
# The executable

Reads the files that the program looks at, answers the command line, and writes back what has changed.
No transport is built in, so every dial fails.
-/

namespace FleetAgent.Executable

def environment : IO Environment := do
  return { verbosity := ← IO.getEnv "LOG_LEVEL"
           directives := ← IO.getEnv "RUST_LOG"
           settingsFile := ← IO.getEnv "FLEETD_AGENT_CONFIG"
           instanceName := ← IO.getEnv "SNAP_INSTANCE_NAME" }

def content? (path : Path) : IO (Option ByteArray) := do
  try
    return some (← IO.FS.readBinFile path.toString)
  catch _ => return none

def hostWith (paths : List Path) : IO Host := do
  let here := Path.ofString (← IO.currentDir).toString
  let mut host := (Host.surely (Host.outcome (Host.makeDirs here)) { tree := {} }).2
  host := { host with tree := { host.tree with here := here.confined } }
  for path in paths do
    if let some content ← content? path then
      host := (Host.surely (Host.outcome (Host.putFile path content)) host).2
  return { tree := host.tree }

/-- Carries a change of one file over to the disk. -/
def carryOver (before after : FileTree) (path : Path) : IO Unit := do
  match before.read path, after.read path with
  | .ok old, .ok content =>
    unless old == content do IO.FS.writeBinFile path.toString content
  | .error _, .ok content =>
    IO.FS.createDirAll path.directory.toString
    IO.FS.writeBinFile path.toString content
  | .ok _, .error _ => IO.FS.removeFile path.toString
  | .error _, .error _ => return

/-- The stamp of the present time, which is when a file was made that is made now. -/
def stamp : IO String := do
  let (_, path) ← IO.FS.createTempFile
  let made := (← path.metadata).modified
  IO.FS.removeFile path
  return Stamp.ofMicros (made.sec.toNat * 1000000 + made.nsec.toNat / 1000)

/-- Surroundings without a transport. -/
def alone : Surroundings where
  dialer := fun _ address ↦ .after 0 (.error (.dial address "no transport is built in"))
  wire := {}
  fuel := 100000

end FleetAgent.Executable

open FleetAgent Executable in
def main (arguments : List String) : IO UInt32 := do
  let request := Request.ofArguments arguments
  let environment ← environment
  let paths := match request with
    | .run arguments => Program.filesOf arguments environment
    | .help | .refused => []
  let host ← hostWith paths
  let left := Program.answer request environment alone (.ok .never) (← stamp) host
  IO.print left.output
  IO.eprint left.errors
  for path in paths do
    carryOver host.tree left.host.tree path
  return (left.exit?.getD 1).toUInt32
