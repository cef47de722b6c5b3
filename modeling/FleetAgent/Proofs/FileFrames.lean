import FleetAgent.FileTree.Basic
import Mathlib.Data.List.Infix

/-!
# What a change of a tree leaves as it is

A change of one entry that is no directory leaves every directory a directory and everything else as it
is. `ChangesOnly` says so of a tree and a later one, and is kept from change to change. `Keeps` says it of
the files alone: new directories do not count.
-/

namespace FleetAgent

namespace FileNode

theorem at?_append (above below : Location) (node : FileNode) :
    node.at? (above ++ below) = (node.at? above).bind (at? below) := by
  induction above generalizing node with
  | nil => rfl
  | cons head rest ih =>
    cases node with
    | file content => rfl
    | dir entries =>
      simp only [List.cons_append, at?]
      cases child? head entries with
      | none => rfl
      | some child => exact ih child

/-- A change below a directory leaves a directory there. -/
theorem change_dir (first : Name) (rest : Location) (node? : Option FileNode)
    (entries : List (Name × FileNode)) :
    ∃ changed, change (first :: rest) node? (.dir entries) = .dir changed := by
  cases rest with
  | nil => exact ⟨_, rfl⟩
  | cons next more =>
    unfold change
    cases child? first entries with
    | none => exact ⟨_, rfl⟩
    | some child => exact ⟨_, rfl⟩

/-- A directory on the way to a change stays a directory. -/
theorem at?_change_above {parent location : Location} {tree : FileNode} (name : Name)
    (node? : Option FileNode) (hdir : ∃ entries, tree.at? parent = some (.dir entries))
    (habove : location <+: parent) :
    ∃ entries, (tree.change (parent ++ [name]) node?).at? location = some (.dir entries) := by
  induction location generalizing parent tree with
  | nil =>
    cases tree with
    | file content =>
      obtain ⟨entries, hentries⟩ := hdir
      cases parent <;> simp [at?] at hentries
    | dir children =>
      cases parent with
      | nil => exact (change_dir name [] node? children).imp fun _ h ↦ congrArg some h
      | cons first rest =>
        exact (change_dir first (rest ++ [name]) node? children).imp fun _ h ↦ congrArg some h
  | cons head tail ih =>
    obtain ⟨rest, rfl⟩ := habove
    obtain ⟨entries, hentries⟩ := hdir
    cases tree with
    | file content => simp [at?] at hentries
    | dir children =>
      obtain ⟨child, hchild, hbelow⟩ : ∃ child, child? head children = some child ∧
          child.at? (tail ++ rest) = some (.dir entries) := by
        simpa [at?, Option.bind_eq_some_iff] using hentries
      obtain ⟨changed, hchanged⟩ := ih ⟨entries, hbelow⟩ (List.prefix_append tail rest)
      refine ⟨changed, ?_⟩
      rw [← hchanged]
      cases hway : tail ++ rest with
      | nil => simp [hway, change, at?, hchild, child?_insertEntry]
      | cons next more => simp [hway, change, at?, hchild, child?_insertEntry]

/-- Nothing lies below the node: it is a file, or a directory without entries. -/
def IsLeaf (node : FileNode) : Prop := ∀ entries, node = .dir entries → entries = []

theorem isLeaf_file (content : ByteArray) : (file content).IsLeaf := nofun

theorem isLeaf_emptyDir : (dir []).IsLeaf := fun _ h ↦ (FileNode.dir.inj h).symm

theorem IsLeaf.at?_eq_none {node : FileNode} (h : node.IsLeaf) (name : Name) (rest : Location) :
    node.at? (name :: rest) = none := by
  cases node with
  | file content => rfl
  | dir entries =>
    obtain rfl := h entries rfl
    rfl

end FileNode

namespace FileTree

variable {tree later : FileTree}

def DirAt (tree : FileTree) (location : Location) : Prop :=
  ∃ entries, tree.at? location = some (.dir entries)

/-- The content of the file at the location, if there is one. -/
def fileAt? (tree : FileTree) (location : Location) : Option ByteArray :=
  match tree.at? location with
  | some (.file content) => some content
  | _ => none

theorem fileAt?_of_file {location : Location} {content : ByteArray}
    (h : tree.at? location = some (.file content)) : tree.fileAt? location = some content := by
  rw [fileAt?, h]

theorem fileAt?_of_none {location : Location} (h : tree.at? location = none) :
    tree.fileAt? location = none := by
  rw [fileAt?, h]

theorem fileAt?_of_dirAt {location : Location} (h : tree.DirAt location) : tree.fileAt? location = none := by
  obtain ⟨entries, hentries⟩ := h
  rw [fileAt?, hentries]

theorem at?_of_fileAt? {location : Location} {content : ByteArray}
    (h : tree.fileAt? location = some content) : tree.at? location = some (.file content) := by
  unfold fileAt? at h
  split at h
  · next hat => rw [hat, Option.some.inj h]
  · cases h

/-- Where no directory is, a location is told by the file there. -/
theorem map_file_fileAt? {location : Location} (h : ¬ tree.DirAt location) :
    (tree.fileAt? location).map .file = tree.at? location := by
  unfold fileAt?
  cases hnode : tree.at? location with
  | none => rfl
  | some node =>
    cases node with
    | file content => rfl
    | dir entries => exact absurd ⟨entries, hnode⟩ h

theorem not_dirAt_of_file {location : Location} {content : ByteArray}
    (h : tree.at? location = some (.file content)) : ¬ tree.DirAt location := by
  rintro ⟨entries, hentries⟩
  simp [h] at hentries

theorem not_dirAt_of_none {location : Location} (h : tree.at? location = none) :
    ¬ tree.DirAt location := by
  rintro ⟨entries, hentries⟩
  simp [h] at hentries

theorem at?_append (tree : FileTree) (above below : Location) :
    tree.at? (above ++ below) = (tree.at? above).bind (FileNode.at? below) :=
  FileNode.at?_append above below tree.root

/-- What lies directly below a directory is one of its entries. -/
theorem at?_below_dir {location : Location} {entries : List (Name × FileNode)} (name : Name)
    (h : tree.at? location = some (.dir entries)) :
    tree.at? (location ++ [name]) = FileNode.child? name entries := by
  rw [at?_append, h]
  simp [FileNode.at?]

/-- Only below a directory there can be anything. -/
theorem at?_below_not_dirAt {location below : Location} (h : ¬ tree.DirAt location) (hbelow : below ≠ []) :
    tree.at? (location ++ below) = none := by
  obtain ⟨name, rest, rfl⟩ := List.exists_cons_of_ne_nil hbelow
  rw [at?_append]
  cases hlocation : tree.at? location with
  | none => rfl
  | some node =>
    cases node with
    | dir entries => exact absurd ⟨entries, hlocation⟩ h
    | file content => rfl

/-- What leads to a directory is a directory. -/
theorem DirAt.above {location below : Location} (h : tree.DirAt below) (habove : location <+: below) :
    tree.DirAt location := by
  obtain ⟨rest, rfl⟩ := habove
  obtain ⟨entries, hentries⟩ := h
  cases rest with
  | nil => exact ⟨entries, by rwa [List.append_nil] at hentries⟩
  | cons first more =>
    by_contra hlocation
    rw [at?_below_not_dirAt hlocation (List.cons_ne_nil first more)] at hentries
    cases hentries

/-! ## From a tree to a later one -/

/-- Every directory is still there. -/
structure KeepsDirs (tree later : FileTree) : Prop where
  here : later.here = tree.here
  dirs : ∀ location, tree.DirAt location → later.DirAt location

/-- Whatever is no directory is the same, except at the given places. -/
structure ChangesOnly (changed : Location → Prop) (tree later : FileTree) : Prop extends
    KeepsDirs tree later where
  same : ∀ location, ¬ changed location → ¬ tree.DirAt location → later.at? location = tree.at? location

/-- The files are the same, except at the given places. -/
structure Keeps (changed : Location → Prop) (tree later : FileTree) : Prop extends
    KeepsDirs tree later where
  files : ∀ location, ¬ changed location → later.fileAt? location = tree.fileAt? location

theorem KeepsDirs.trans {first second third : FileTree} (h : KeepsDirs first second)
    (h' : KeepsDirs second third) : KeepsDirs first third :=
  ⟨h'.here.trans h.here, fun location hdir ↦ h'.dirs location (h.dirs location hdir)⟩

namespace ChangesOnly

variable {changed more : Location → Prop}

theorem refl (changed : Location → Prop) (tree : FileTree) : ChangesOnly changed tree tree :=
  ⟨⟨rfl, fun _ h ↦ h⟩, fun _ _ _ ↦ rfl⟩

theorem trans {first second third : FileTree} (h : ChangesOnly changed first second)
    (h' : ChangesOnly changed second third) : ChangesOnly changed first third := by
  refine ⟨h.toKeepsDirs.trans h'.toKeepsDirs, fun location hkept hdir ↦ ?_⟩
  have hfirst := h.same location hkept hdir
  have hstill : ¬ second.DirAt location := by
    rw [DirAt, hfirst]
    exact hdir
  exact (h'.same location hkept hstill).trans hfirst

theorem mono (h : ChangesOnly changed tree later) (hmore : ∀ location, changed location → more location) :
    ChangesOnly more tree later :=
  ⟨h.toKeepsDirs, fun location hkept ↦ h.same location fun hchanged ↦ hkept (hmore location hchanged)⟩

/-- Where nothing but some places is changed, the files everywhere else are kept. -/
theorem keeps (h : ChangesOnly changed tree later) : Keeps changed tree later := by
  refine ⟨h.toKeepsDirs, fun location hkept ↦ ?_⟩
  by_cases hdir : tree.DirAt location
  · rw [fileAt?_of_dirAt hdir, fileAt?_of_dirAt (h.dirs location hdir)]
  · rw [fileAt?, h.same location hkept hdir, ← fileAt?]

end ChangesOnly

namespace Keeps

variable {changed more : Location → Prop}

theorem refl (changed : Location → Prop) (tree : FileTree) : Keeps changed tree tree :=
  (ChangesOnly.refl changed tree).keeps

theorem trans {first second third : FileTree} (h : Keeps changed first second)
    (h' : Keeps changed second third) : Keeps changed first third :=
  ⟨h.toKeepsDirs.trans h'.toKeepsDirs,
    fun location hkept ↦ (h'.files location hkept).trans (h.files location hkept)⟩

theorem mono (h : Keeps changed tree later) (hmore : ∀ location, changed location → more location) :
    Keeps more tree later :=
  ⟨h.toKeepsDirs, fun location hkept ↦ h.files location fun hchanged ↦ hkept (hmore location hchanged)⟩

/-- A place where it makes no difference does not count. -/
theorem of_same {location : Location} (h : Keeps (· = location) tree later)
    (hsame : later.fileAt? location = tree.fileAt? location) (changed : Location → Prop) :
    Keeps changed tree later := by
  refine ⟨h.toKeepsDirs, fun other _ ↦ ?_⟩
  by_cases hother : other = location
  · rw [hother, hsame]
  · exact h.files other hother

end Keeps

/-- Where there is nothing afterwards, there was nothing before. -/
theorem Keeps.at?_eq_none {changed : Location → Prop} {location : Location} (h : Keeps changed tree later)
    (hkept : ¬ changed location) (hnone : later.at? location = none) : tree.at? location = none := by
  have hfile := h.files location hkept
  rw [fileAt?_of_none hnone] at hfile
  cases hnode : tree.at? location with
  | none => rfl
  | some node =>
    cases node with
    | file content => simp [fileAt?, hnode] at hfile
    | dir entries => exact absurd (h.dirs location ⟨entries, hnode⟩) (not_dirAt_of_none hnone)

/-! ## One change -/

theorem at?_change {parent : Location} {name : Name} (node? : Option FileNode) (hdir : tree.DirAt parent) :
    (tree.change (parent ++ [name]) node?).at? (parent ++ [name]) = node? := by
  obtain ⟨entries, hentries⟩ := hdir
  exact FileNode.at?_change_self parent name node? tree.root entries hentries

/-- A location is the changed one, or leads to its directory, or lies under it, or sees no change. -/
theorem change_cases (tree : FileTree) (parent : Location) (name : Name) (node? : Option FileNode)
    (location : Location) :
    location = parent ++ [name] ∨ location <+: parent ∨
      (∃ first rest, location = parent ++ [name] ++ first :: rest) ∨
      (tree.change (parent ++ [name]) node?).at? location = tree.at? location := by
  by_cases habove : location <+: parent ++ [name]
  · rcases List.prefix_concat_iff.1 habove with hself | habove
    · exact .inl hself
    · exact .inr (.inl habove)
  · by_cases hunder : parent ++ [name] <+: location
    · obtain ⟨below, rfl⟩ := hunder
      cases below with
      | nil => exact .inl (List.append_nil _)
      | cons first rest => exact .inr (.inr (.inl ⟨first, rest, rfl⟩))
    · exact .inr (.inr (.inr (FileNode.at?_change_of_not_prefix _ _ _ _ hunder habove)))

/-- A change of an entry that is no directory leaves all else as it is. -/
theorem changesOnly_change {parent : Location} {name : Name} {node? : Option FileNode}
    (hdir : tree.DirAt parent) (hfree : ¬ tree.DirAt (parent ++ [name]))
    (hleaf : ∀ node ∈ node?, node.IsLeaf) :
    ChangesOnly (· = parent ++ [name]) tree (tree.change (parent ++ [name]) node?) := by
  have hnone (first : Name) (rest : Location) : tree.at? (parent ++ [name] ++ first :: rest) = none :=
    at?_below_not_dirAt hfree (List.cons_ne_nil first rest)
  refine ⟨⟨rfl, fun location hlocation ↦ ?_⟩, fun location hother hlocation ↦ ?_⟩
  · rcases change_cases tree parent name node? location with rfl | habove | ⟨first, rest, rfl⟩ | hsame
    · exact absurd hlocation hfree
    · exact FileNode.at?_change_above name node? hdir habove
    · exact absurd hlocation (not_dirAt_of_none (hnone first rest))
    · rw [DirAt, hsame]
      exact hlocation
  · rcases change_cases tree parent name node? location with rfl | habove | ⟨first, rest, rfl⟩ | hsame
    · exact absurd rfl hother
    · exact absurd (hdir.above habove) hlocation
    · rw [hnone, at?_append, at?_change node? hdir]
      cases node? with
      | none => rfl
      | some node => exact (hleaf node rfl).at?_eq_none first rest
    · exact hsame

end FileTree

end FleetAgent
