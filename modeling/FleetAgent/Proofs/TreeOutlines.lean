import FleetAgent.FileTree.Replace
import FleetAgent.Proofs.FileCalls

/-!
# The outline of a tree

The outline of a tree is the tree with every file in it emptied. No call but reading looks at what files
hold, so a call does to the outline what it does to the tree: `makeDir_outline` and its likes say so call by
call. Two trees with the same outline therefore allow the same calls and refuse the others for the same
reasons. Trees are alike outside some places when moreover all files at other places are the same, so that
they are read alike there.
-/

namespace FleetAgent

namespace FileNode

mutual

/-- The node with every file in it emptied. -/
def outline : FileNode → FileNode
  | .file _ => .file .empty
  | .dir entries => .dir (outlines entries)

/-- The entries with every file in them emptied. -/
def outlines : List (Name × FileNode) → List (Name × FileNode)
  | [] => []
  | (name, node) :: rest => (name, node.outline) :: outlines rest

end

theorem length_outlines (entries : List (Name × FileNode)) : (outlines entries).length = entries.length := by
  induction entries with
  | nil => rfl
  | cons head rest ih => simp [outlines, ih]

theorem child?_outlines (name : Name) (entries : List (Name × FileNode)) :
    child? name (outlines entries) = (child? name entries).map outline := by
  induction entries with
  | nil => rfl
  | cons head rest ih =>
    obtain ⟨first, node⟩ := head
    simp only [outlines, child?, ih]
    split <;> rfl

theorem outlines_insertEntry (name : Name) (node : FileNode) (entries : List (Name × FileNode)) :
    outlines (insertEntry name node entries) = insertEntry name node.outline (outlines entries) := by
  induction entries with
  | nil => rfl
  | cons head rest ih =>
    obtain ⟨first, old⟩ := head
    simp only [outlines, insertEntry]
    split
    · rfl
    · split
      · rfl
      · rw [outlines, ih]

theorem outlines_filter (name : Name) (entries : List (Name × FileNode)) :
    outlines (entries.filter (·.1 ≠ name)) = (outlines entries).filter (·.1 ≠ name) := by
  induction entries with
  | nil => rfl
  | cons head rest ih =>
    obtain ⟨first, node⟩ := head
    by_cases hfirst : first = name <;> simp_all [outlines]

theorem outlines_setEntry (name : Name) (node? : Option FileNode) (entries : List (Name × FileNode)) :
    outlines (setEntry name node? entries) = setEntry name (node?.map outline) (outlines entries) := by
  cases node? with
  | none => exact outlines_filter name entries
  | some node => exact outlines_insertEntry name node entries

theorem at?_outline (location : Location) (node : FileNode) :
    node.outline.at? location = (node.at? location).map outline := by
  induction location generalizing node with
  | nil => rfl
  | cons name rest ih =>
    cases node with
    | file content => rfl
    | dir entries =>
      simp only [outline, at?, child?_outlines]
      cases child? name entries with
      | none => rfl
      | some child => exact ih child

theorem outline_change (location : Location) (node? : Option FileNode) (node : FileNode) :
    (node.change location node?).outline = node.outline.change location (node?.map outline) := by
  induction location generalizing node with
  | nil => cases node? <;> rfl
  | cons name rest ih =>
    cases node with
    | file content => cases rest <;> rfl
    | dir entries =>
      cases rest with
      | nil => simp [change, outline, outlines_setEntry]
      | cons next more =>
        simp only [change, outline, child?_outlines]
        cases hchild : child? name entries with
        | none => simp [outline]
        | some child => simp [outline, outlines_insertEntry, ih]

theorem isDir_outline (node : FileNode) : node.outline.isDir = node.isDir := by
  cases node <;> rfl

end FileNode

namespace FileTree

variable {tree other : FileTree}

def outline (tree : FileTree) : FileTree := { tree with root := tree.root.outline }

theorem here_outline (tree : FileTree) : tree.outline.here = tree.here := rfl

theorem at?_outline (tree : FileTree) (location : Location) :
    tree.outline.at? location = (tree.at? location).map FileNode.outline :=
  FileNode.at?_outline location tree.root

theorem outline_change (tree : FileTree) (location : Location) (node? : Option FileNode) :
    (tree.change location node?).outline = tree.outline.change location (node?.map FileNode.outline) := by
  unfold change outline
  rw [FileNode.outline_change]

/-! ## Finding the way -/

theorem start_outline (tree : FileTree) (path : Path) : tree.outline.start path = tree.start path := rfl

theorem follow_outline (tree : FileTree) (location : Location) (names : List Name) :
    tree.outline.follow location names = tree.follow location names := by
  induction names generalizing location with
  | nil => rfl
  | cons name rest ih =>
    unfold follow
    rw [at?_outline]
    rcases tree.at? location with _ | ⟨content | entries⟩
    · rfl
    · rfl
    · simp only [Option.map_some, FileNode.outline, FileNode.child?_outlines, Option.isSome_map, ih]

/-- Where a path leads does not depend on what is in the files. -/
theorem locate_outline (tree : FileTree) (path : Path) : tree.outline.locate path = tree.locate path := by
  unfold locate
  rw [start_outline, follow_outline]

/-- Where an entry would go does not depend on what is in the files. -/
theorem place_outline (tree : FileTree) (path : Path) : tree.outline.place path = tree.place path := by
  unfold place
  simp only [start_outline, follow_outline, at?_outline]
  split
  · rfl
  · split
    · rfl
    · split
      · rfl
      · cases tree.follow (tree.start path) _ with
        | error fault => rfl
        | ok parent =>
          simp only [bind, Except.bind]
          rcases tree.at? parent with _ | ⟨content | entries⟩ <;> rfl

theorem isDir_outline (tree : FileTree) (path : Path) : tree.outline.isDir path = tree.isDir path := by
  unfold isDir
  rw [locate_outline]
  cases tree.locate path with
  | error fault => rfl
  | ok location =>
    simp only [at?_outline]
    cases tree.at? location <;> simp [FileNode.isDir_outline]

theorem exists?_outline (tree : FileTree) (path : Path) : tree.outline.exists? path = tree.exists? path := by
  rw [exists?, exists?, locate_outline]

/-- Which name is fresh does not depend on what is in the files. -/
theorem freshPath?_outline (tree : FileTree) (directory : Path) :
    Host.freshPath? tree.outline directory = Host.freshPath? tree directory := by
  unfold Host.freshPath?
  simp only [locate_outline, exists?_outline]
  cases tree.locate directory with
  | error fault => rfl
  | ok location =>
    simp only [at?_outline]
    rcases tree.at? location with _ | ⟨content | entries⟩
    · rfl
    · rfl
    · simp only [Option.map_some, FileNode.outline, FileNode.length_outlines]

/-! ## What a call does to the outline -/

/-- Making a directory goes alike on trees of one outline. -/
theorem makeDir_outline (tree : FileTree) (path : Path) :
    tree.outline.makeDir path = (tree.makeDir path).map outline := by
  unfold makeDir
  rw [place_outline]
  rcases tree.place path with fault | ⟨location | ⟨parent, name, asDir⟩⟩
  · rfl
  · rfl
  · simp only [bind, Except.bind, at?_outline]
    cases tree.at? (parent ++ [name]) with
    | some node => rfl
    | none => exact congrArg Except.ok (outline_change tree _ (some (.dir []))).symm

/-- Making a file goes alike on trees of one outline. -/
theorem createNew_outline (tree : FileTree) (path : Path) :
    tree.outline.createNew path = (tree.createNew path).map outline := by
  unfold createNew
  rw [place_outline]
  rcases tree.place path with fault | ⟨location | ⟨parent, name, asDir⟩⟩
  · rfl
  · rfl
  · simp only [bind, Except.bind, at?_outline]
    cases tree.at? (parent ++ [name]) with
    | some node => rfl
    | none =>
      cases asDir with
      | true => rfl
      | false => exact congrArg Except.ok (outline_change tree _ (some (.file .empty))).symm

/-- A file is emptied alike on trees of one outline. -/
theorem openToWrite_outline (tree : FileTree) (path : Path) :
    tree.outline.openToWrite false path =
      (tree.openToWrite false path).map fun (location, later) ↦ (location, later.outline) := by
  unfold openToWrite
  rw [place_outline]
  rcases tree.place path with fault | ⟨location | ⟨parent, name, asDir⟩⟩
  · rfl
  · rfl
  · cases asDir with
    | true => rfl
    | false =>
      have hchange := outline_change tree (parent ++ [name]) (some (.file .empty))
      simp only [bind, Except.bind, at?_outline]
      rcases tree.at? (parent ++ [name]) with _ | ⟨content | entries⟩
      · exact congrArg (fun later ↦ Except.ok (parent ++ [name], later)) hchange.symm
      · exact congrArg (fun later ↦ Except.ok (parent ++ [name], later)) hchange.symm
      · rfl

/-- What is appended is not seen in the outline. -/
theorem outline_append (tree : FileTree) (location : Location) (bytes : ByteArray) :
    (tree.append location bytes).outline = tree.outline.append location .empty := by
  unfold append
  rw [at?_outline]
  rcases tree.at? location with _ | ⟨content | entries⟩
  · rfl
  · exact outline_change tree location _
  · rfl

/-- Dropping a file goes alike on trees of one outline. -/
theorem remove_outline (tree : FileTree) (path : Path) :
    tree.outline.remove path = (tree.remove path).map outline := by
  unfold remove
  rw [place_outline]
  rcases tree.place path with fault | ⟨location | ⟨parent, name, asDir⟩⟩
  · rfl
  · rfl
  · simp only [bind, Except.bind, at?_outline]
    rcases tree.at? (parent ++ [name]) with _ | ⟨content | entries⟩
    · rfl
    · cases asDir with
      | true => rfl
      | false => exact congrArg Except.ok (outline_change tree _ none).symm
    · rfl

theorem replaceFault?_outline (node : FileNode) (node? : Option FileNode) :
    replaceFault? node.outline (node?.map FileNode.outline) = replaceFault? node node? := by
  rcases node with content | entries <;> rcases node? with _ | ⟨old | ⟨_ | ⟨head, rest⟩⟩⟩ <;> rfl

/-- Moving a node goes alike on trees of one outline. -/
theorem rename_outline (tree : FileTree) (source target : Path) :
    tree.outline.rename source target = (tree.rename source target).map outline := by
  unfold rename
  rw [place_outline, place_outline]
  rcases tree.place source with fault | ⟨location | ⟨parent, name, asDir⟩⟩
  · rfl
  · rcases tree.place target with fault | ⟨location | ⟨parent, name, asDir⟩⟩ <;> rfl
  · rcases tree.place target with fault | ⟨location | ⟨targetParent, targetName, targetAsDir⟩⟩
    · rfl
    · rfl
    · simp only [bind, Except.bind, at?_outline]
      cases tree.at? (parent ++ [name]) with
      | none => rfl
      | some node =>
        have hmoved : ((tree.change (parent ++ [name]) none).change (targetParent ++ [targetName])
            (some node)).outline = (tree.outline.change (parent ++ [name]) none).change
              (targetParent ++ [targetName]) (some node.outline) := by
          rw [outline_change, outline_change, Option.map_none, Option.map_some]
        simp only [Option.map_some, FileNode.isDir_outline, replaceFault?_outline]
        split
        · rfl
        · split
          · rfl
          · split
            · rfl
            · cases replaceFault? node (tree.at? (targetParent ++ [targetName])) with
              | some fault => rfl
              | none => exact congrArg Except.ok hmoved.symm

/-! ## Trees that are alike -/

def SameOutline (tree other : FileTree) : Prop := tree.outline = other.outline

/-- The trees have the same outline, and the same files but for the hidden ones. -/
structure Alike (hidden : Location → Prop) (tree other : FileTree) : Prop where
  outline : tree.SameOutline other
  files : ∀ location, ¬ hidden location → tree.fileAt? location = other.fileAt? location

variable {hidden changed : Location → Prop} {later final : FileTree} {path : Path}

theorem SameOutline.here (h : tree.SameOutline other) : tree.here = other.here := by
  rw [← here_outline tree, h, here_outline]

theorem goal_of_here (h : tree.here = other.here) (path : Path) : tree.goal path = other.goal path := by
  rw [goal, goal, start, start, h]

theorem SameOutline.goal (h : tree.SameOutline other) (path : Path) : tree.goal path = other.goal path :=
  goal_of_here h.here path

theorem SameOutline.locate (h : tree.SameOutline other) (path : Path) : tree.locate path = other.locate path := by
  rw [← locate_outline tree, h, locate_outline]

theorem SameOutline.isDir (h : tree.SameOutline other) (path : Path) : tree.isDir path = other.isDir path := by
  rw [← isDir_outline tree, h, isDir_outline]

theorem SameOutline.dirAt_iff (h : tree.SameOutline other) (location : Location) :
    tree.DirAt location ↔ other.DirAt location := by
  have hdir (tree : FileTree) : tree.DirAt location ↔ tree.outline.DirAt location := by
    unfold DirAt
    rw [at?_outline]
    rcases tree.at? location with _ | ⟨content | entries⟩ <;> simp [FileNode.outline]
  rw [hdir tree, h, ← hdir other]

/-- Trees that are alike remain so when more is hidden. -/
theorem Alike.mono {more : Location → Prop} (h : Alike hidden tree other)
    (hmore : ∀ location, hidden location → more location) : Alike more tree other :=
  ⟨h.outline, fun location hshown ↦ h.files location fun hhidden ↦ hshown (hmore location hhidden)⟩

/-- Where nothing is hidden the same is at a place in both trees, directories apart. -/
theorem Alike.at?_eq {location : Location} (h : Alike hidden tree other) (hshown : ¬ hidden location)
    (hdir : ¬ tree.DirAt location) : tree.at? location = other.at? location := by
  have hother : ¬ other.DirAt location := fun hother ↦ hdir ((h.outline.dirAt_iff location).2 hother)
  rw [← map_file_fileAt? hdir, h.files location hshown, map_file_fileAt? hother]

theorem goal_of_locate {location : Location} (h : tree.locate path = .ok location) : tree.goal path = location := by
  unfold locate at h
  split at h
  · cases h
  · exact foldl_walk_of_follow h

theorem read_of_locate {location : Location} (h : tree.locate path = .ok location) :
    tree.read path = match tree.at? location with
      | some (.file content) => .ok content
      | some (.dir _) => .error .isADirectory
      | none => .error .notFound := by
  unfold read
  rw [h]
  rfl

theorem read_of_locate_eq_error {fault : FileError} (h : tree.locate path = .error fault) :
    tree.read path = .error fault := by
  unfold read
  rw [h]
  rfl

/-- What is not hidden is read alike. -/
theorem Alike.read (h : Alike hidden tree other) (hshown : ¬ hidden (tree.goal path)) :
    tree.read path = other.read path := by
  have hlocate := h.outline.locate path
  cases hfound : tree.locate path with
  | error fault => rw [read_of_locate_eq_error hfound, read_of_locate_eq_error (hlocate ▸ hfound)]
  | ok location =>
    rw [read_of_locate hfound, read_of_locate (hlocate ▸ hfound)]
    by_cases hdir : tree.DirAt location
    · obtain ⟨entries, hentries⟩ := hdir
      obtain ⟨others, hothers⟩ := (h.outline.dirAt_iff location).1 ⟨entries, hentries⟩
      rw [hentries, hothers]
    · rw [goal_of_locate hfound] at hshown
      rw [h.at?_eq hshown hdir]

/-- Trees stay alike where the same becomes of their files. -/
theorem Alike.of_keeps (h : Alike hidden tree other) (hchanges : Keeps changed tree later)
    (hothers : Keeps changed other final) (houtline : later.SameOutline final)
    (hsame : ∀ location, changed location → ¬ hidden location → later.fileAt? location = final.fileAt? location) :
    Alike hidden later final := by
  refine ⟨houtline, fun location hshown ↦ ?_⟩
  by_cases hchanged : changed location
  · exact hsame location hchanged hshown
  · rw [hchanges.files location hchanged, h.files location hshown, hothers.files location hchanged]

/-- A file with another content makes no other difference. -/
theorem Holds.alike_put {content : ByteArray} (h : tree.Holds path content) (new : ByteArray)
    (houtline : tree.SameOutline (tree.change (tree.goal path) (some (.file new)))) :
    tree.Alike (· = tree.goal path) (tree.change (tree.goal path) (some (.file new))) :=
  ⟨houtline, fun location hother ↦ ((h.names.put h.not_dirAt new).2.keeps.files location hother).symm⟩

end FileTree

end FleetAgent
