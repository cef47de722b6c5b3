import FleetAgent.Proofs.FilePaths

/-!
# What file calls do

A call on a path that names an entry touches that entry alone, or the two entries between which it moves
a file. Each lemma says when the call goes well and what the tree is like behind it.
-/

namespace FleetAgent.FileTree

variable {tree later : FileTree} {path source target : Path} {content : ByteArray}

namespace NamesEntry

/-- A path that names an entry has its place where the path leads. -/
theorem place_eq (h : tree.NamesEntry path) :
    ∃ parent name, tree.place path = .ok (.entry parent name false) ∧
      parent ++ [name] = tree.goal path := by
  obtain ⟨parent, name, hnames⟩ := h
  exact ⟨parent, name, hnames.place_eq, hnames.goal.symm⟩

theorem at?_change (h : tree.NamesEntry path) (node? : Option FileNode) :
    (tree.change (tree.goal path) node?).at? (tree.goal path) = node? := by
  obtain ⟨parent, name, hgoal, hdir⟩ := h.goal_concat
  rw [hgoal]
  exact FileTree.at?_change node? hdir

/-- Changing the entry that a path names leaves all else as it is. -/
theorem changesOnly (h : tree.NamesEntry path) (hfree : ¬ tree.DirAt (tree.goal path))
    {node? : Option FileNode} (hleaf : ∀ node ∈ node?, node.IsLeaf) :
    ChangesOnly (· = tree.goal path) tree (tree.change (tree.goal path) node?) := by
  obtain ⟨parent, name, hgoal, hdir⟩ := h.goal_concat
  rw [hgoal] at hfree ⊢
  exact changesOnly_change hdir hfree hleaf

theorem isLeaf_file (content : ByteArray) : ∀ node ∈ some (FileNode.file content), node.IsLeaf := by
  rintro node ⟨⟩
  exact FileNode.isLeaf_file content

/-- Putting a file where there is no directory. -/
theorem put (h : tree.NamesEntry path) (hfree : ¬ tree.DirAt (tree.goal path)) (content : ByteArray) :
    (tree.change (tree.goal path) (some (.file content))).Holds path content ∧
      ChangesOnly (· = tree.goal path) tree (tree.change (tree.goal path) (some (.file content))) := by
  have hchanges := h.changesOnly hfree (isLeaf_file content)
  refine ⟨⟨hchanges.toKeepsDirs.namesEntry h, ?_⟩, hchanges⟩
  rw [hchanges.toKeepsDirs.goal]
  exact h.at?_change _

/-- Dropping what is no directory. -/
theorem drop (h : tree.NamesEntry path) (hfree : ¬ tree.DirAt (tree.goal path)) :
    (tree.change (tree.goal path) none).at? (tree.goal path) = none ∧
      ChangesOnly (· = tree.goal path) tree (tree.change (tree.goal path) none) :=
  ⟨h.at?_change none, h.changesOnly hfree (by simp)⟩

end NamesEntry

theorem Holds.not_dirAt (h : tree.Holds path content) : ¬ tree.DirAt (tree.goal path) :=
  not_dirAt_of_file h.file

/-! ## Making -/

/-- A call on an entry that goes well has found the place of the entry. -/
theorem names_of_bind_place {next : Place → Except FileError α} {value : α}
    (h : (tree.place path >>= next) = .ok value) (hstanding : ∀ location, next (.standing location) ≠ .ok value) :
    ∃ parent name asDir, tree.Names path parent name asDir ∧ next (.entry parent name asDir) = .ok value := by
  cases hplace : tree.place path with
  | error fault =>
    rw [hplace] at h
    cases h
  | ok place =>
    rw [hplace] at h
    cases place with
    | standing location => exact absurd h (hstanding location)
    | entry parent name asDir => exact ⟨parent, name, asDir, names_of_place_eq hplace, h⟩

/-- A directory is made only where there is nothing. -/
theorem makeDir_eq_ok (h : tree.makeDir path = .ok later) :
    textFault? path = none ∧ tree.at? (tree.goal path) = none ∧ later.DirAt (tree.goal path) ∧
      ChangesOnly (· = tree.goal path) tree later := by
  obtain ⟨parent, name, asDir, hnames, h⟩ := names_of_bind_place h nofun
  dsimp only at h
  split at h
  · cases h
  · next hentry =>
    obtain rfl := Except.ok.inj h
    rw [hnames.goal]
    refine ⟨hnames.text, hentry, ⟨[], FileTree.at?_change _ hnames.dir⟩, ?_⟩
    exact changesOnly_change hnames.dir (not_dirAt_of_none hentry)
      (by rintro node ⟨⟩; exact FileNode.isLeaf_emptyDir)

/-- Making a directory changes no file. -/
theorem keeps_makeDir (h : tree.makeDir path = .ok later) (changed : Location → Prop) :
    Keeps changed tree later := by
  obtain ⟨-, hnone, hdir, hmade⟩ := makeDir_eq_ok h
  refine hmade.keeps.of_same ?_ changed
  rw [fileAt?_of_none hnone, fileAt?_of_dirAt hdir]

/-- What a path leads to is always a directory or the entry that it names. -/
theorem place_of_locate {location : Location} (h : tree.locate path = .ok location) :
    (∃ standing, tree.place path = .ok (.standing standing)) ∨
      ∃ parent name asDir, tree.place path = .ok (.entry parent name asDir) ∧
        (tree.at? (parent ++ [name])).isSome := by
  unfold locate at h
  cases htext : textFault? path with
  | some fault => simp [htext] at h
  | none =>
    simp only [htext] at h
    unfold place
    rw [htext]
    cases hfull : (Path.stretches path.chars).reverse.dropWhile (· = []) with
    | nil => exact .inl ⟨[], by simp only [hfull]⟩
    | cons last above =>
      simp only [hfull]
      by_cases hmoves : last = ['.'] ∨ last = ['.', '.']
      · rw [if_pos hmoves, h]
        exact .inl ⟨location, rfl⟩
      · have hlast : last ≠ [] := by
          have hhead := List.head?_dropWhile_not (· = []) (Path.stretches path.chars).reverse
          rw [hfull] at hhead
          simpa using hhead
        obtain ⟨blanks, hsplit, -⟩ := Path.stretches_of_dropWhile hfull
        rw [hsplit, follow_append] at h
        cases hparent : tree.follow (tree.start path) above.reverse with
        | error fault => simp [hparent, bind, Except.bind] at h
        | ok parent =>
          simp only [hparent, bind, Except.bind] at h
          obtain ⟨⟨entries, hentries⟩, hshort, hthere⟩ := follow_cons_eq_ok h
            (not_or.2 ⟨hlast, fun hdot ↦ hmoves (.inl hdot)⟩) fun hdots ↦ hmoves (.inr hdots)
          rw [if_neg hmoves]
          simp only [bind, Except.bind, hentries, if_neg hshort]
          exact .inr ⟨parent, last, _, rfl, hthere⟩

/-- No directory is made where a path leads to something. -/
theorem makeDir_of_locate {location : Location} (h : tree.locate path = .ok location) :
    tree.makeDir path = .error .alreadyExists := by
  unfold makeDir
  rcases place_of_locate h with ⟨standing, hplace⟩ | ⟨parent, name, asDir, hplace, hthere⟩
  · rw [hplace]
    rfl
  · obtain ⟨node, hnode⟩ := Option.isSome_iff_exists.1 hthere
    rw [hplace]
    simp only [bind, Except.bind, hnode]
    rfl

/-- A file is made only where there is nothing. -/
theorem createNew_eq_ok (h : tree.createNew path = .ok later) :
    tree.at? (tree.goal path) = none ∧ later.Holds path .empty ∧
      ChangesOnly (· = tree.goal path) tree later := by
  obtain ⟨parent, name, asDir, hnames, h⟩ := names_of_bind_place h nofun
  dsimp only at h
  split at h
  · cases h
  · next hentry =>
    cases asDir with
    | true => cases h
    | false =>
      obtain rfl := Except.ok.inj h
      rw [← hnames.goal] at hentry ⊢
      exact ⟨hentry, NamesEntry.put ⟨parent, name, hnames⟩ (not_dirAt_of_none hentry) .empty⟩

/-- A file that may be missing is opened, with its content or without. -/
theorem openToWrite_file (h : tree.NamesEntry path) (hfree : ¬ tree.DirAt (tree.goal path)) (keep : Bool) :
    ∃ later, tree.openToWrite keep path = .ok (tree.goal path, later) ∧
      later.Holds path (if keep then (tree.fileAt? (tree.goal path)).getD .empty else .empty) ∧
      ChangesOnly (· = tree.goal path) tree later := by
  obtain ⟨parent, name, hplace, hgoal⟩ := h.place_eq
  unfold openToWrite
  simp only [hplace, bind, Except.bind, Bool.false_eq_true, if_false, hgoal]
  cases hentry : tree.at? (tree.goal path) with
  | none =>
    rw [fileAt?_of_none hentry]
    refine ⟨_, rfl, ?_⟩
    simpa using h.put hfree .empty
  | some node =>
    cases node with
    | dir entries => exact absurd ⟨entries, hentry⟩ hfree
    | file content =>
      rw [fileAt?_of_file hentry]
      exact ⟨_, rfl, h.put hfree _⟩

/-- Nothing but a file is opened, or made where there is nothing. -/
theorem openToWrite_eq_ok {keep : Bool} {location : Location}
    (h : tree.openToWrite keep path = .ok (location, later)) :
    tree.NamesEntry path ∧ ¬ tree.DirAt (tree.goal path) ∧ location = tree.goal path := by
  obtain ⟨parent, name, asDir, hnames, h⟩ := names_of_bind_place h nofun
  cases asDir with
  | true => cases h
  | false =>
    rw [hnames.goal]
    refine ⟨⟨parent, name, hnames⟩, ?_⟩
    dsimp only at h
    cases hentry : tree.at? (parent ++ [name]) with
    | none =>
      simp only [hentry] at h
      exact ⟨not_dirAt_of_none hentry, (Prod.mk.inj (Except.ok.inj h)).1.symm⟩
    | some node =>
      simp only [hentry] at h
      cases node with
      | dir entries => cases h
      | file content => exact ⟨not_dirAt_of_file hentry, (Prod.mk.inj (Except.ok.inj h)).1.symm⟩

/-- More content goes behind what the file holds. -/
theorem Holds.append (h : tree.Holds path content) (bytes : ByteArray) :
    (tree.append (tree.goal path) bytes).Holds path (content ++ bytes) ∧
      ChangesOnly (· = tree.goal path) tree (tree.append (tree.goal path) bytes) := by
  unfold FileTree.append
  simp only [h.file]
  exact h.names.put h.not_dirAt (content ++ bytes)

/-! ## Dropping and moving -/

theorem Holds.remove_eq (h : tree.Holds path content) :
    tree.remove path = .ok (tree.change (tree.goal path) none) := by
  obtain ⟨parent, name, hplace, hgoal⟩ := h.names.place_eq
  unfold FileTree.remove
  simp only [hplace, bind, Except.bind, hgoal, h.file, Bool.false_eq_true, if_false]
  rfl

/-- A file that is there can be removed, and nothing else is different then. -/
theorem Holds.remove (h : tree.Holds path content) :
    ∃ later, tree.remove path = .ok later ∧ later.at? (tree.goal path) = none ∧
      ChangesOnly (· = tree.goal path) tree later :=
  ⟨_, h.remove_eq, h.names.drop h.not_dirAt⟩

/-- Where there is nothing, there is nothing to remove. -/
theorem remove_missing (h : tree.NamesEntry path) (hnone : tree.at? (tree.goal path) = none) :
    tree.remove path = .error .notFound := by
  obtain ⟨parent, name, hplace, hgoal⟩ := h.place_eq
  unfold FileTree.remove
  simp only [hplace, bind, Except.bind, hgoal, hnone]
  rfl

/-- Nothing but a file is dropped. -/
theorem remove_eq_ok (h : tree.remove path = .ok later) : ChangesOnly (· = tree.goal path) tree later := by
  obtain ⟨parent, name, asDir, hnames, h⟩ := names_of_bind_place h nofun
  dsimp only at h
  split at h
  · cases h
  · next hentry =>
    cases asDir with
    | true => cases h
    | false =>
      obtain rfl := Except.ok.inj h
      rw [hnames.goal]
      exact changesOnly_change hnames.dir (not_dirAt_of_file hentry) (by simp)
  · cases h

/-- Where a file could be moved to there is no directory. -/
theorem Holds.rename_eq_ok (hsource : tree.Holds source content) (h : tree.rename source target = .ok later) :
    tree.NamesEntry target ∧ ¬ tree.DirAt (tree.goal target) := by
  obtain ⟨parent, name, hplaced, hgoal⟩ := hsource.names.place_eq
  unfold rename at h
  rw [hplaced] at h
  obtain ⟨targetParent, targetName, asDir, hnames, h⟩ := names_of_bind_place h nofun
  simp only [hgoal, hsource.file, FileNode.isDir, Bool.not_false, Bool.false_or, Bool.true_and,
    Bool.false_and, Bool.false_eq_true, if_false] at h
  cases asDir with
  | true => cases h
  | false =>
    refine ⟨⟨targetParent, targetName, hnames⟩, ?_⟩
    rintro ⟨entries, hentries⟩
    rw [hnames.goal] at hentries
    have hother : tree.goal source ≠ targetParent ++ [targetName] := by
      intro hsame
      rw [← hsame, hsource.file] at hentries
      cases hentries
    simp only [Bool.false_eq_true, if_false, if_neg hother, hentries] at h
    cases h

/-- A file is moved to a place where there is no directory. -/
theorem Holds.rename (hsource : tree.Holds source content) (htarget : tree.NamesEntry target)
    (hfree : ¬ tree.DirAt (tree.goal target)) :
    ∃ later, tree.rename source target = .ok later ∧ later.Holds target content ∧
      ChangesOnly (fun location ↦ location = tree.goal source ∨ location = tree.goal target) tree later ∧
      (tree.goal source ≠ tree.goal target → later.at? (tree.goal source) = none) := by
  obtain ⟨parent, name, hplaced, hgoal⟩ := hsource.names.place_eq
  obtain ⟨targetParent, targetName, hplace, htargetGoal⟩ := htarget.place_eq
  have hfault : replaceFault? (.file content) (tree.at? (tree.goal target)) = none := by
    cases hnode : tree.at? (tree.goal target) with
    | none => rfl
    | some node =>
      cases node with
      | file old => rfl
      | dir entries => exact absurd ⟨entries, hnode⟩ hfree
  have hrename : tree.rename source target = if tree.goal source = tree.goal target then .ok tree else
      .ok ((tree.change (tree.goal source) none).change (tree.goal target) (some (.file content))) := by
    unfold FileTree.rename
    simp only [hplaced, hplace, bind, Except.bind, hgoal, htargetGoal, hsource.file, FileNode.isDir,
      Bool.not_false, Bool.false_or, Bool.true_and, Bool.false_and, Bool.false_eq_true, if_false, hfault]
    split <;> rfl
  rw [hrename]
  by_cases hsame : tree.goal source = tree.goal target
  · rw [if_pos hsame]
    refine ⟨tree, rfl, ⟨htarget, hsame ▸ hsource.file⟩, .refl _ tree, fun hother ↦ absurd hsame hother⟩
  · rw [if_neg hsame]
    obtain ⟨hgone, hdropped⟩ := hsource.names.drop hsource.not_dirAt
    generalize tree.change (tree.goal source) none = dropped at hgone hdropped
    have hstill : ¬ dropped.DirAt (tree.goal target) := by
      rw [DirAt, hdropped.same _ (Ne.symm hsame) hfree]
      exact hfree
    rw [← hdropped.toKeepsDirs.goal target] at hstill hsame ⊢
    obtain ⟨hput, hmoved⟩ := (hdropped.toKeepsDirs.namesEntry htarget).put hstill content
    refine ⟨_, rfl, hput, ?_, fun _ ↦ ?_⟩
    · exact (hdropped.mono fun _ h ↦ .inl h).trans (hmoved.mono fun _ h ↦ .inr h)
    · rw [hmoved.same _ hsame (not_dirAt_of_none hgone), hgone]

/-- Wherever a file is moved it takes its content with it. -/
theorem Holds.renamed (hsource : tree.Holds source content) (h : tree.rename source target = .ok later) :
    later.Holds target content ∧
      ChangesOnly (fun location ↦ location = tree.goal source ∨ location = tree.goal target) tree later ∧
      (tree.goal source ≠ tree.goal target → later.at? (tree.goal source) = none) := by
  obtain ⟨hnames, hfree⟩ := hsource.rename_eq_ok h
  obtain ⟨moved, hmoved, hspec⟩ := hsource.rename hnames hfree
  obtain rfl : moved = later := Except.ok.inj (hmoved.symm.trans h)
  exact hspec

end FleetAgent.FileTree
