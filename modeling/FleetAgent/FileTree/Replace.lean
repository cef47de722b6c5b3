import FleetAgent.FileTree.Make

/-!
# Replacing a file whole

A file is never rewritten in place. The new content goes into a fresh file beside it, and only when
that is complete is it moved over the old one. Whoever reads the file in between finds all of the old
content or all of the new one.
-/

namespace FleetAgent.Host

/-- The name of the n-th temporary file. -/
def temporaryName (n : Nat) : Name := ".tmp".toList ++ Nat.toDigits 10 n

/-- A path in the directory where there is no entry yet. -/
def freshPath? (tree : FileTree) (directory : Path) : Option Path :=
  let taken := match tree.locate directory with
    | .ok location =>
      match tree.at? location with
      | some (.dir entries) => entries.length
      | _ => 0
    | .error _ => 0
  ((List.range (taken + 1)).map fun n ↦ directory.join ⟨temporaryName n⟩).find?
    fun path ↦ !tree.exists? path

/-- Fills a fresh file and moves it to the path. -/
def fillAndMove (fresh path : Path) (content : ByteArray) : HostM FileError Unit := do
  alter fun tree ↦ do
    return tree.append (← tree.locate fresh) content
  -- The content is on its way to the disk before the file gets its name.
  alter fun tree ↦ .ok tree
  alter fun tree ↦ tree.rename fresh path

/-- Gives the file at `path` a new content, all at once. When a step fails the fresh file is dropped
again. -/
def replaceFile (path : Path) (content : ByteArray) : HostM FileError Unit := do
  let directory := path.directory
  makeDirs directory
  match ← look (freshPath? · directory) with
  | none => throw .alreadyExists
  | some fresh =>
    alter (·.createNew fresh)
    match ← outcome (fillAndMove fresh path content) with
    | .ok _ => return
    | .error fault =>
      let _ ← outcome (alter (·.remove fresh))
      throw fault

end FleetAgent.Host
