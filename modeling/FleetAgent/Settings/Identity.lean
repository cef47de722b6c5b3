import FleetAgent.FileTree.Replace
import FleetAgent.Text.Strip

/-!
# The identity files

The identity of the agent lies in two files of one directory: the name under which the control plane
knows it, and the secret that they share. Each file holds one value, and blanks around it do not count.
-/

namespace FleetAgent

inductive IdentityFile where
  | systemId
  | secret
  deriving DecidableEq, Repr

/-- What the file is called, in its directory and in reports. -/
def IdentityFile.name : IdentityFile → String
  | .systemId => "system_id"
  | .secret => "secret"

inductive IdentityError where
  | missing (file : IdentityFile) (path : Path)
  | unread (file : IdentityFile) (path : Path) (fault : FileError)
  | unwritten (file : IdentityFile) (path : Path) (fault : FileError)
  deriving DecidableEq, Repr

namespace IdentityError

def file : IdentityError → IdentityFile
  | missing file _ | unread file _ _ | unwritten file _ _ => file

def isMissing : IdentityError → Bool
  | missing .. => true
  | _ => false

def message : IdentityError → String
  | missing file path => "secret '" ++ file.name ++ "' not found at " ++ path.toString
  | unread file path fault =>
    "failed to read secret '" ++ file.name ++ "' from " ++ path.toString ++ ": " ++ fault.message
  | unwritten file path fault =>
    "failed to write secret '" ++ file.name ++ "' to " ++ path.toString ++ ": " ++ fault.message

end IdentityError

namespace Host

def readText (path : Path) : HostM FileError String := do
  match String.fromUTF8? (← ask (·.read path)) with
  | some text => return text
  | none => throw .notUtf8

end Host

namespace IdentityFile

def path (file : IdentityFile) (directory : Path) : Path := directory.join (.ofString file.name)

def readError (file : IdentityFile) (path : Path) : FileError → IdentityError
  | .notFound => .missing file path
  | fault => .unread file path fault

def read (file : IdentityFile) (directory : Path) : HostM IdentityError String := do
  let path := file.path directory
  return Text.strip (← Host.mapError (file.readError path) (Host.readText path))

def written (file : IdentityFile) (path : Path) : Log.Event :=
  ⟨.debug, "fleetd_config::secrets", "Secret written",
    [("secret", .shown file.name), ("path", .shown path.toString)]⟩

/-- Puts a value into the file, all at once. -/
def write (file : IdentityFile) (directory : Path) (value : String) : HostM IdentityError Unit := do
  let path := file.path directory
  Host.mapError (.unwritten file path) (Host.replaceFile path value.toUTF8)
  Host.report (file.written path)

end IdentityFile

end FleetAgent
