import FleetAgent.FileTree.Make

/-!
# Rotating log files

The log goes into a live file, and when the next text would make that longer than the limit the file
is put aside first: it becomes the first of the older generations, which all move on by one, and the
oldest of them is dropped.
-/

namespace FleetAgent.Log

/-- The character may stand in the name of a log file. -/
def staysInStem (c : Char) : Bool := c.isAlphanum || c == '-' || c == '_'

/-- The name of a log file without its ending. -/
def stem (name : String) : Name := name.toList.map fun c ↦ if staysInStem c then c else '_'

/-- An open log: its live file, how many files there may be, how long they may grow, and how much the
live file has taken so far. -/
structure Rotating where
  live : Path
  file : Location
  keep : Nat
  limit : Nat
  written : Nat
  deriving DecidableEq, Inhabited

namespace Rotating

open Host

def openLive (live : Path) : HostM FileError Location := call (·.openToWrite true live)

def sizeAt (location : Location) (tree : FileTree) : Nat :=
  match tree.at? location with
  | some (.file content) => content.size
  | _ => 0

/-- The live file of the log of that name in a directory. -/
def liveOf (directory : Path) (name : String) : Path := directory.join ⟨stem name ++ ".log".toList⟩

/-- The n-th of the older files of a log; the first is the newest of them. -/
def olderThan (live : Path) (n : Nat) : Path := ⟨live.chars ++ '.' :: Nat.toDigits 10 n⟩

/-- Opens the log of that name in a directory, which is made when it is missing. No fewer than one
file is kept. -/
def openLog (directory : Path) (name : String) (keep limit : Nat) : HostM FileError Rotating := do
  makeDirs directory
  let live := liveOf directory name
  let file ← openLive live
  let written ← look (sizeAt file)
  return { live, file, keep := max keep 1, limit, written }

def generation (log : Rotating) (n : Nat) : Path := olderThan log.live n

/-- Moves the generations from the n-th down to the first on by one. -/
def shift (log : Rotating) : Nat → HostM FileError Unit
  | 0 => return
  | n + 1 => do
    if ← look (·.exists? (log.generation (n + 1))) then
      alter (·.rename (log.generation (n + 1)) (log.generation (n + 2)))
    log.shift n

def dropIfThere (path : Path) : HostM FileError Unit := do
  match ← outcome (alter (·.remove path)) with
  | .ok _ => return
  | .error .notFound => return
  | .error fault => throw fault

/-- Begins a new live file, and keeps the old one as the first generation when more than one file is
kept. -/
def rotate (log : Rotating) : HostM FileError Rotating := do
  let oldest := log.keep - 1
  if oldest = 0 then
    let file ← call (·.openToWrite false log.live)
    return { log with file, written := 0 }
  dropIfThere (log.generation oldest)
  log.shift (oldest - 1)
  alter (·.rename log.live (log.generation 1))
  let file ← openLive log.live
  return { log with file, written := 0 }

/-- The text has no room in the live file. -/
def isFull (log : Rotating) (bytes : ByteArray) : Bool :=
  0 < log.written && log.limit < log.written + bytes.size

/-- Adds a text at the end of the log. -/
def write (log : Rotating) (bytes : ByteArray) : HostM FileError Rotating := do
  let log ← if log.isFull bytes then log.rotate else pure log
  alter fun tree ↦ .ok (tree.append log.file bytes)
  return { log with written := log.written + bytes.size }

end Rotating

end FleetAgent.Log
