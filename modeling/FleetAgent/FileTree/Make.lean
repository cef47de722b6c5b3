import FleetAgent.Host

/-!
# Making directories and files

A directory is made together with what is missing on the way to it. A file that is written in place is
emptied first and filled afterwards, so that whoever reads it in between may find it empty.
-/

namespace FleetAgent.Host

/-- The paths from a path up to its topmost parent, found within so many steps. -/
def parents : Nat → Path → List Path
  | 0, _ => []
  | steps + 1, path =>
    match path.parent? with
    | some parent => parent :: parents steps parent
    | none => []

/-- Makes a directory and what is missing on the way to it. The given paths are its parents, the
nearest first. -/
def makeDirsUnder : List Path → Path → HostM FileError Unit
  | parents, path => do
    if path.chars = [] then return
    match ← outcome (alter (·.makeDir path)) with
    | .ok _ => return
    | .error .notFound =>
      match parents with
      | [] => throw .notFound
      | parent :: above => makeDirsUnder above parent
    | .error fault => if ← look (·.isDir path) then return else throw fault
    match ← outcome (alter (·.makeDir path)) with
    | .ok _ => return
    | .error fault => if ← look (·.isDir path) then return else throw fault

def makeDirs (path : Path) : HostM FileError Unit :=
  makeDirsUnder (parents path.chars.length path) path

/-- Gives a file a content in place, making the file when there is none. -/
def writeFile (path : Path) (content : ByteArray) : HostM FileError Unit := do
  let file ← call (·.openToWrite false path)
  alter fun tree ↦ .ok (tree.append file content)

/-- Gives a file a content in place, making the file and its directory when there is none. -/
def putFile (path : Path) (content : ByteArray) : HostM FileError Unit := do
  makeDirs path.directory
  writeFile path content

end FleetAgent.Host
