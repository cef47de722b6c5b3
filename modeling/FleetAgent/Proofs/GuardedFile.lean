import FleetAgent.Proofs.RunFootprint
import FleetAgent.Proofs.TwoRuns

/-!
# A file in which two trees differ

Two trees differ in what one file holds, and in nothing else. Directories are made alike in both of them, and
other files are written and removed alike, so that afterwards it is still this file alone in which they
differ, and it still holds in each tree what it held there.
-/

namespace FleetAgent

namespace FileTree

variable {start tree later other final : FileTree} {path guarded : Path} {content content' : ByteArray}

/-- The trees differ in one file only, which holds a content of its own in each. Paths lead where they led at
the start. -/
structure Guarded (start : FileTree) (guarded : Path) (content content' : ByteArray) (tree other : FileTree) :
    Prop extends Alike (· = start.goal guarded) tree other where
  here : tree.here = start.here
  holds : tree.Holds guarded content
  holds' : other.Holds guarded content'

/-- In both trees a path leads where it led at the start. -/
theorem Guarded.goal (h : Guarded start guarded content content' tree other) (path : Path) :
    tree.goal path = start.goal path :=
  goal_of_here h.here path

theorem Guarded.goal' (h : Guarded start guarded content content' tree other) (path : Path) :
    other.goal path = start.goal path :=
  (h.outline.goal path).symm.trans (h.goal path)

/-- Nothing becomes of the file where other files are changed alike. -/
theorem Guarded.of_keeps {changed : Location → Prop} (h : Guarded start guarded content content' tree other)
    (hkeeps : Keeps changed tree later) (hkeeps' : Keeps changed other final)
    (houtline : later.SameOutline final) (hkept : ¬ changed (start.goal guarded))
    (hsame : ∀ location, changed location → later.fileAt? location = final.fileAt? location) :
    Guarded start guarded content content' later final := by
  refine ⟨h.toAlike.of_keeps hkeeps hkeeps' houtline fun location hchanged _ ↦ hsame location hchanged, ?_, ?_, ?_⟩
  · exact hkeeps.here.trans h.here
  · exact hkeeps.holds h.holds (h.goal guarded ▸ hkept)
  · exact hkeeps'.holds h.holds' (h.goal' guarded ▸ hkept)

/-- Nothing becomes of the file where the same becomes of another one. -/
theorem Guarded.of_keeps_goal (h : Guarded start guarded content content' tree other)
    (hpath : start.goal path ≠ start.goal guarded) (hkeeps : Keeps (· = tree.goal path) tree later)
    (hkeeps' : Keeps (· = other.goal path) other final) (houtline : later.SameOutline final)
    (hsame : later.fileAt? (tree.goal path) = final.fileAt? (other.goal path)) :
    Guarded start guarded content content' later final := by
  rw [h.goal] at hkeeps hsame
  rw [h.goal'] at hkeeps' hsame
  refine h.of_keeps hkeeps hkeeps' houtline hpath.symm ?_
  rintro location rfl
  exact hsame

/-- What is read elsewhere is the same in both trees. -/
theorem Guarded.read (h : Guarded start guarded content content' tree other)
    (hpath : start.goal path ≠ start.goal guarded) : tree.read path = other.read path :=
  h.toAlike.read (h.goal path ▸ hpath)

/-- Where a file was removed there is nothing. -/
theorem remove_gone (h : tree.remove path = .ok later) : later.at? (tree.goal path) = none := by
  obtain ⟨parent, name, asDir, hnames, h⟩ := names_of_bind_place h nofun
  dsimp only at h
  split at h
  · cases h
  · cases asDir with
    | true => cases h
    | false =>
      obtain rfl := Except.ok.inj h
      rw [hnames.goal]
      exact at?_change none hnames.dir
  · cases h

/-- Appending to an open file changes that file alone. -/
theorem keeps_append (tree : FileTree) {location : Location} (hlocation : location ≠ []) (bytes : ByteArray) :
    Keeps (· = location) tree (tree.append location bytes) ∧
      (tree.append location bytes).fileAt? location = (tree.fileAt? location).map (· ++ bytes) := by
  unfold append
  cases hnode : tree.at? location with
  | none =>
    refine ⟨.refl _ tree, ?_⟩
    dsimp only
    rw [fileAt?_of_none hnode]
    rfl
  | some node =>
    cases node with
    | dir entries =>
      refine ⟨.refl _ tree, ?_⟩
      dsimp only
      rw [fileAt?_of_dirAt ⟨entries, hnode⟩]
      rfl
    | file old =>
      dsimp only
      obtain ⟨parent, name, rfl⟩ := (List.eq_nil_or_concat' location).resolve_left hlocation
      have hdir : tree.DirAt parent := by
        by_contra hdir
        rw [at?_below_not_dirAt hdir (List.cons_ne_nil name [])] at hnode
        cases hnode
      refine ⟨(changesOnly_change hdir (not_dirAt_of_file hnode) (NamesEntry.isLeaf_file _)).keeps, ?_⟩
      rw [fileAt?_of_file (at?_change _ hdir), fileAt?_of_file hnode]
      rfl

end FileTree

namespace Host

open FileTree (Guarded)

variable {start : FileTree} {guarded path : Path} {content content' : ByteArray}

/-- A directory is made alike, and the guarded file keeps its two contents. -/
theorem parallel_makeDir_guarded (path : Path) :
    Parallel (Twins (Guarded start guarded content content')) (· = ·) (alter (·.makeDir path))
      (alter (·.makeDir path)) := by
  refine parallel_alter fun tree tree' htrees ↦ ?_
  have hagree := agree_of_outline (·.makeDir path) (fun tree ↦ tree.makeDir_outline path) htrees.outline
  refine hagree.mono fun later final hlater hfinal houtline ↦ ?_
  exact htrees.of_keeps (FileTree.keeps_makeDir hlater fun _ ↦ False) (FileTree.keeps_makeDir hfinal _) houtline
    (fun h ↦ h) fun _ h ↦ h.elim

theorem parallel_makeDirs_guarded (path : Path) :
    Parallel (Twins (Guarded start guarded content content')) (· = ·) (makeDirs path) (makeDirs path) :=
  parallel_makeDirs (fun _ _ htrees ↦ htrees.outline) parallel_makeDir_guarded path

variable (hpath : start.goal path ≠ start.goal guarded)

include hpath

theorem parallel_remove_guarded :
    Parallel (Twins (Guarded start guarded content content')) (· = ·) (alter (·.remove path))
      (alter (·.remove path)) := by
  refine parallel_alter fun tree tree' htrees ↦ ?_
  have hagree := agree_of_outline (·.remove path) (fun tree ↦ tree.remove_outline path) htrees.outline
  refine hagree.mono fun later final hlater hfinal houtline ↦ ?_
  refine htrees.of_keeps_goal hpath (FileTree.remove_eq_ok hlater).keeps (FileTree.remove_eq_ok hfinal).keeps
    houtline ?_
  rw [FileTree.fileAt?_of_none (FileTree.remove_gone hlater),
    FileTree.fileAt?_of_none (FileTree.remove_gone hfinal)]

/-- The file that is opened is another one, in the same place in both trees. -/
theorem parallel_open_guarded :
    Parallel (Twins (Guarded start guarded content content'))
      (fun location location' ↦ location = location' ∧ location ≠ start.goal guarded ∧ location ≠ [])
      (call (·.openToWrite false path)) (call (·.openToWrite false path)) := by
  refine parallel_call fun tree tree' htrees ↦ ?_
  have hagree : Agree
      (fun found found' ↦ (found.1, FileTree.outline found.2) = (found'.1, FileTree.outline found'.2))
      (tree.openToWrite false path) (tree'.openToWrite false path) := by
    apply agree_of_map_eq
    rw [← FileTree.openToWrite_outline, htrees.outline, FileTree.openToWrite_outline]
  refine hagree.mono fun found found' hfound hfound' hsame ↦ ?_
  obtain ⟨hlocation, houtline⟩ := Prod.mk.inj hsame
  obtain ⟨hgoal, hempty, honly⟩ := FileTree.openToWrite_empties hfound
  obtain ⟨-, hempty', honly'⟩ := FileTree.openToWrite_empties hfound'
  obtain ⟨parent, name, hconcat, -⟩ := (FileTree.openToWrite_eq_ok hfound).1.goal_concat
  refine ⟨⟨hlocation, ?_, ?_⟩, htrees.of_keeps_goal hpath honly.keeps honly'.keeps houtline ?_⟩
  · rw [hgoal, htrees.goal]
    exact hpath
  · rw [hgoal, hconcat]
    simp
  · rw [← honly.toKeepsDirs.goal, ← honly'.toKeepsDirs.goal, hempty.fileAt?, hempty'.fileAt?]

omit hpath in
theorem parallel_append_guarded {location : Location} (hother : location ≠ start.goal guarded)
    (hlocation : location ≠ []) (bytes : ByteArray) :
    Parallel (Twins (Guarded start guarded content content')) (· = ·)
      (alter fun tree ↦ .ok (tree.append location bytes)) (alter fun tree ↦ .ok (tree.append location bytes)) := by
  refine parallel_alter fun tree tree' htrees ↦ .ok ?_
  obtain ⟨hkeeps, hnew⟩ := tree.keeps_append hlocation bytes
  obtain ⟨hkeeps', hnew'⟩ := tree'.keeps_append hlocation bytes
  have houtline : (tree.append location bytes).outline = (tree'.append location bytes).outline := by
    rw [FileTree.outline_append, htrees.outline, FileTree.outline_append]
  refine htrees.of_keeps hkeeps hkeeps' houtline hother.symm fun changed hchanged ↦ ?_
  rw [hchanged, hnew, hnew', htrees.files location hother]

/-- Any other file is written alike. -/
theorem parallel_writeFile_guarded (bytes : ByteArray) :
    Parallel (Twins (Guarded start guarded content content')) (· = ·) (writeFile path bytes)
      (writeFile path bytes) := by
  refine (parallel_open_guarded hpath).bind ?_
  rintro location _ ⟨rfl, hother, hlocation⟩
  exact parallel_append_guarded hother hlocation bytes

end Host

namespace PidFile

variable {start : FileTree} {guarded : Path} {content content' : ByteArray}

/-- The pid file is made alike when it is not the guarded file. -/
theorem parallel_create (directory : Path) (pid : Nat)
    (hpath : start.goal (Agent.pidPath directory) ≠ start.goal guarded) :
    Parallel (Host.Twins (FileTree.Guarded start guarded content content'))
      (fun file file' ↦ file = ⟨Agent.pidPath directory⟩ ∧ file' = ⟨Agent.pidPath directory⟩)
      (create directory Agent.name pid) (create directory Agent.name pid) := by
  refine (Host.parallel_makeDirs_guarded directory).bind fun _ _ _ ↦ ?_
  rw [Agent.join_name_pid]
  refine (Host.parallel_writeFile_guarded hpath _).bind fun _ _ _ ↦ ?_
  exact (Host.parallel_report _).bind fun _ _ _ ↦ .pure ⟨rfl, rfl⟩

theorem parallel_drop (file : PidFile) (hpath : start.goal file.path ≠ start.goal guarded) :
    Parallel (Host.Twins (FileTree.Guarded start guarded content content')) (· = ·)
      (file.drop : HostM Empty Unit) file.drop := by
  refine (Host.parallel_outcome (Host.parallel_remove_guarded hpath)).bind fun result result' hresult ↦ ?_
  obtain rfl := agree_eq_iff.1 hresult
  rcases result with fault | _
  · cases fault with
    | notFound => exact .pure rfl
    | _ => exact Host.parallel_report _
  · exact .pure rfl

end PidFile

end FleetAgent
