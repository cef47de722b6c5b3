import FleetAgent.FileTree.Basic

/-!
# File calls

Each call either gives the tree after it or says why it cannot be done, and then nothing is different.
A path is followed name by name from the root or from the current directory; every name but the last
has to be a directory.
-/

namespace FleetAgent

inductive FileError where
  | notFound
  | alreadyExists
  | notADirectory
  | isADirectory
  | nameTooLong
  | directoryNotEmpty
  | busy
  | badArgument
  | zeroInPath
  | notUtf8
  deriving DecidableEq, Repr

def FileError.message : FileError → String
  | .notFound => "No such file or directory (os error 2)"
  | .alreadyExists => "File exists (os error 17)"
  | .notADirectory => "Not a directory (os error 20)"
  | .isADirectory => "Is a directory (os error 21)"
  | .nameTooLong => "File name too long (os error 36)"
  | .directoryNotEmpty => "Directory not empty (os error 39)"
  | .busy => "Device or resource busy (os error 16)"
  | .badArgument => "Invalid argument (os error 22)"
  | .zeroInPath => "file name contained an unexpected NUL byte"
  | .notUtf8 => "stream did not contain valid UTF-8"

namespace FileTree

/-- The number of bytes of a text when stored. -/
def byteCount (chars : List Char) : Nat := chars.foldl (fun count c ↦ count + c.utf8Size) 0

def longestName : Nat := 255

/-- A path's text has to be shorter than this many bytes. -/
def pathLimit : Nat := 4096

/-! ## Following a path -/

/-- What is wrong with the text of a path, whatever the tree holds. -/
def textFault? (path : Path) : Option FileError :=
  if path.chars.contains '\x00' then some .zeroInPath
  else if pathLimit ≤ byteCount path.chars then some .nameTooLong
  else if path.chars = [] then some .notFound
  else none

/-- Where the stretches of a path lead from a location. -/
def follow (tree : FileTree) : Location → List Name → Except FileError Location
  | location, [] => .ok location
  | location, stretch :: rest =>
    match tree.at? location with
    | some (.dir entries) =>
      if stretch = [] ∨ stretch = ['.'] then tree.follow location rest
      else if stretch = ['.', '.'] then tree.follow location.dropLast rest
      else if longestName < byteCount stretch then .error .nameTooLong
      else if (FileNode.child? stretch entries).isSome then tree.follow (location ++ [stretch]) rest
      else .error .notFound
    | some (.file _) => .error .notADirectory
    | none => .error .notFound

def start (tree : FileTree) (path : Path) : Location :=
  if path.isAbsolute then [] else tree.here

/-- The location of the node that a path names. -/
def locate (tree : FileTree) (path : Path) : Except FileError Location :=
  match textFault? path with
  | some fault => .error fault
  | none => tree.follow (tree.start path) (Path.stretches path.chars)

/-- Where a call would make or drop an entry. -/
inductive Place where
  /-- The path ends in the root, a dot or a step up, and these are always directories. -/
  | standing (location : Location)
  /-- The name in that directory; `asDir` when a separator follows the name. -/
  | entry (parent : Location) (name : Name) (asDir : Bool)

/-- The place of the entry that a path names, whether or not there is one. -/
def place (tree : FileTree) (path : Path) : Except FileError Place :=
  match textFault? path with
  | some fault => .error fault
  | none =>
    let stretches := Path.stretches path.chars
    let full := stretches.reverse.dropWhile (· = [])
    match full with
    | [] => .ok (.standing [])
    | last :: above => do
      if last = ['.'] ∨ last = ['.', '.'] then
        return .standing (← tree.follow (tree.start path) stretches)
      let parent ← tree.follow (tree.start path) above.reverse
      match tree.at? parent with
      | some (.dir _) =>
        if longestName < byteCount last then throw .nameTooLong
        return .entry parent last (full.length < stretches.length)
      | _ => throw .notADirectory

def isDir (tree : FileTree) (path : Path) : Bool :=
  match tree.locate path with
  | .ok location => (tree.at? location).any FileNode.isDir
  | .error _ => false

def exists? (tree : FileTree) (path : Path) : Bool := (tree.locate path).isOk

/-! ## The calls -/

def read (tree : FileTree) (path : Path) : Except FileError ByteArray := do
  match tree.at? (← tree.locate path) with
  | some (.file content) => return content
  | some (.dir _) => throw .isADirectory
  | none => throw .notFound

def makeDir (tree : FileTree) (path : Path) : Except FileError FileTree := do
  match ← tree.place path with
  | .standing _ => throw .alreadyExists
  | .entry parent name _ =>
    match tree.at? (parent ++ [name]) with
    | some _ => throw .alreadyExists
    | none => return tree.change (parent ++ [name]) (some (.dir []))

/-- A file with nothing in it where there was no entry. -/
def createNew (tree : FileTree) (path : Path) : Except FileError FileTree := do
  match ← tree.place path with
  | .standing _ => throw .alreadyExists
  | .entry parent name asDir =>
    match tree.at? (parent ++ [name]) with
    | some _ => throw .alreadyExists
    | none =>
      if asDir then throw .isADirectory
      return tree.change (parent ++ [name]) (some (.file .empty))

/-- Opens a file for writing, making it when there is none. `keep` says whether its content stays. -/
def openToWrite (keep : Bool) (tree : FileTree) (path : Path) :
    Except FileError (Location × FileTree) := do
  match ← tree.place path with
  | .standing _ => throw .isADirectory
  | .entry parent name asDir =>
    if asDir then throw .isADirectory
    let location := parent ++ [name]
    match tree.at? location with
    | some (.dir _) => throw .isADirectory
    | some (.file content) =>
      return (location, tree.change location (some (.file (if keep then content else .empty))))
    | none => return (location, tree.change location (some (.file .empty)))

/-- More content at the end of an open file. A file that is no longer at its place takes the bytes
with it out of sight. -/
def append (tree : FileTree) (location : Location) (bytes : ByteArray) : FileTree :=
  match tree.at? location with
  | some (.file content) => tree.change location (some (.file (content ++ bytes)))
  | _ => tree

def remove (tree : FileTree) (path : Path) : Except FileError FileTree := do
  match ← tree.place path with
  | .standing _ => throw .isADirectory
  | .entry parent name asDir =>
    match tree.at? (parent ++ [name]) with
    | some (.dir _) => throw .isADirectory
    | some (.file _) =>
      if asDir then throw .notADirectory
      return tree.change (parent ++ [name]) none
    | none => throw .notFound

/-- Drops a file, or a directory with everything in it. -/
def removeAll (tree : FileTree) (path : Path) : Except FileError FileTree := do
  match ← tree.place path with
  | .standing _ => throw .badArgument
  | .entry parent name _ =>
    match tree.at? (parent ++ [name]) with
    | some _ => return tree.change (parent ++ [name]) none
    | none => throw .notFound

/-- Whether a node may take the place of another one. -/
def replaceFault? : FileNode → Option FileNode → Option FileError
  | .file _, some (.dir _) => some .isADirectory
  | .dir _, some (.file _) => some .notADirectory
  | .dir _, some (.dir (_ :: _)) => some .directoryNotEmpty
  | _, _ => none

/-- Moves a node to another place, in the stead of what is there. -/
def rename (tree : FileTree) (source target : Path) : Except FileError FileTree := do
  match ← tree.place source, ← tree.place target with
  | .entry sourceParent sourceName sourceAsDir, .entry targetParent targetName targetAsDir =>
    let old := sourceParent ++ [sourceName]
    let new := targetParent ++ [targetName]
    match tree.at? old with
    | none => throw .notFound
    | some node =>
      if !node.isDir && (sourceAsDir || targetAsDir) then throw .notADirectory
      if old = new then return tree
      if node.isDir && old.isPrefixOf new then throw .badArgument
      match replaceFault? node (tree.at? new) with
      | some fault => throw fault
      | none => return (tree.change old none).change new (some node)
  | _, _ => throw .busy

end FileTree

end FleetAgent
