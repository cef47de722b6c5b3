import FleetAgent.FileTree.Make

/-!
# The pid file

While the agent runs, a file tells the number of its process. Both writing and removing it are done as
far as possible: a failure is reported and changes nothing else.
-/

namespace FleetAgent

structure PidFile where
  path : Path
  deriving DecidableEq, Repr

namespace PidFile

/-- What the file of a process holds. -/
def content (pid : Nat) : ByteArray := (toString pid ++ "\n").toUTF8

/-- The file at the path is there and holds the number of the process. -/
def isHeld (tree : FileTree) (path : Path) (pid : Nat) : Bool :=
  match tree.read path with
  | .ok found => found == content pid
  | .error _ => false

def written (path : Path) : Log.Event :=
  ⟨.debug, "fleetd_agent::lifecycle", "Pid file written", [("path", .shown path.toString)]⟩

/-- Writes the file of a process into a directory, which is made when it is missing. -/
def create (directory : Path) (name : String) (pid : Nat) : HostM FileError PidFile := do
  Host.makeDirs directory
  let path := directory.join (.ofString (name ++ ".pid"))
  Host.writeFile path (content pid)
  Host.report (written path)
  return ⟨path⟩

def kept (path : Path) (fault : FileError) : Log.Event :=
  ⟨.warn, "fleetd_agent::lifecycle", "Failed to remove pid file",
    [("path", .shown path.toString), ("error", .shown fault.message)]⟩

/-- Removes the file; one that is gone already is not missed. -/
def drop (file : PidFile) : HostM ε Unit := do
  match ← Host.outcome (Host.alter (·.remove file.path)) with
  | .ok _ => return
  | .error .notFound => return
  | .error fault => Host.report (kept file.path fault)

end PidFile

end FleetAgent
