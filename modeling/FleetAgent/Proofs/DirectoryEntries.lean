import FleetAgent.Proofs.FileCalls

/-!
# The entries of one directory

A directory that is reached by names alone, with no step up on the way, is still reached when entries in it
are changed, be they files or directories. So its entries can be moved about freely, and each of them keeps
out of the way of all others.
-/

namespace FleetAgent.FileTree

variable {tree later : FileTree} {directory path source target : Path} {name other : Name} {content : ByteArray}

/-! ## The way to the directory -/

/-- A path without steps up leads further down at every stretch. -/
theorem prefix_foldl_walk {names : List Name} (hplain : ['.', '.'] ∉ names) (location : Location) :
    location <+: names.foldl walk location := by
  induction names generalizing location with
  | nil => exact List.prefix_rfl
  | cons name rest ih =>
    obtain ⟨hname, hrest⟩ := List.ne_and_not_mem_of_not_mem_cons hplain
    refine List.IsPrefix.trans ?_ (ih hrest (walk location name))
    unfold walk
    rw [if_neg hname.symm]
    split
    · exact List.prefix_rfl
    · exact List.prefix_append location [name]

/-- A way without steps up leads through directories above its end. -/
theorem prefix_of_follow {location found : Location} {names : List Name} (hplain : ['.', '.'] ∉ names)
    (h : tree.follow location names = .ok found) : location <+: found :=
  foldl_walk_of_follow h ▸ prefix_foldl_walk hplain location

theorem NamesEntry.dirAt (hname : Path.IsEntryName name) (h : tree.NamesEntry (directory.join ⟨name⟩)) :
    tree.DirAt (tree.goal directory) := by
  obtain ⟨parent, last, hgoal, hdir⟩ := h.goal_concat
  rw [goal_join tree directory hname] at hgoal
  rwa [(List.append_inj' hgoal rfl).1]

/-- A change in the directory leaves its entries where they are. -/
theorem NamesEntry.change_entry (hname : Path.IsEntryName name) (hplain : ['.', '.'] ∉ directory.way)
    (h : tree.NamesEntry (directory.join ⟨name⟩)) (other : Name) (node? : Option FileNode) :
    (tree.change (tree.goal directory ++ [other]) node?).NamesEntry (directory.join ⟨name⟩) := by
  obtain ⟨htext, hshort, location, hway, hdir⟩ := (namesEntry_join_iff hname).1 h
  have hlocation : tree.goal directory = location :=
    (foldl_walk_way directory _).symm.trans (foldl_walk_of_follow hway)
  rw [hlocation]
  have hkept (above : Location) (habove : above <+: location) :
      (tree.change (location ++ [other]) node?).DirAt above :=
    FileNode.at?_change_above other node? hdir habove
  refine (namesEntry_join_iff hname).2 ⟨htext, hshort, location, ?_, hkept location List.prefix_rfl⟩
  refine follow_of_kept hway hdir fun above rest hrest hfollow ↦ hkept above ?_
  exact prefix_of_follow (fun hup ↦ hplain (hrest.subset hup)) hfollow

theorem at?_change_entry {location : Location} (hne : name ≠ other) (node? : Option FileNode) :
    (tree.change (location ++ [other]) node?).at? (location ++ [name]) = tree.at? (location ++ [name]) := by
  have hapart (first second : Name) (hsame : first ≠ second) : ¬ location ++ [first] <+: location ++ [second] := by
    intro hprefix
    have hnames := (List.prefix_append_right_inj location).1 hprefix
    exact hsame (List.cons_prefix_cons.1 hnames).1
  exact FileNode.at?_change_of_not_prefix _ _ _ _ (hapart other name hne.symm) (hapart name other hne)

/-! ## Which paths fit -/

theorem byteCount_cons (c : Char) (rest : List Char) : byteCount (c :: rest) = c.utf8Size + byteCount rest := by
  rw [← List.singleton_append, byteCount_append]
  simp [byteCount]

theorem byteCount_of_digits {chars : List Char} (h : ∀ c ∈ chars, c.isDigit) : byteCount chars = chars.length := by
  induction chars with
  | nil => rfl
  | cons c rest ih =>
    obtain ⟨hc, hrest⟩ := List.forall_mem_cons.1 h
    have hsize : c.utf8Size = 1 := by
      simp only [Char.isDigit, ge_iff_le, Bool.and_eq_true, decide_eq_true_eq] at hc
      exact if_pos (UInt32.le_trans hc.2 (by decide))
    rw [byteCount_cons, ih hrest, hsize, List.length_cons, Nat.add_comm]

/-- The text of a path is fine when it has no zero character, is short enough and is not empty. -/
theorem textFault?_eq_none_iff :
    textFault? path = none ↔ '\x00' ∉ path.chars ∧ byteCount path.chars < pathLimit ∧ path.chars ≠ [] := by
  unfold textFault?
  grind

/-- What a path behind a directory begins with. -/
theorem exists_chars_join (directory : Path) :
    ∃ lead, ∀ name : Name, '/' ∉ name → (directory.join ⟨name⟩).chars = lead ++ name := by
  by_cases hends : directory.chars = [] ∨ directory.chars.getLast? = some '/'
  · refine ⟨directory.chars, fun name hname ↦ ?_⟩
    rw [Path.join, Path.isAbsolute_of_noSlash hname, if_neg Bool.false_ne_true, if_pos hends]
  · refine ⟨directory.chars ++ ['/'], fun name hname ↦ ?_⟩
    rw [Path.join, Path.isAbsolute_of_noSlash hname, if_neg Bool.false_ne_true, if_neg hends, List.append_assoc]
    rfl

/-- A name that is no longer than one that fits does so as well. -/
theorem textFault?_join_of_le (hother : '/' ∉ other) (hname : Path.IsEntryName name) (hzero : '\x00' ∉ name)
    (hle : byteCount name ≤ byteCount other) (h : textFault? (directory.join ⟨other⟩) = none) :
    textFault? (directory.join ⟨name⟩) = none := by
  obtain ⟨lead, hjoin⟩ := exists_chars_join directory
  rw [textFault?_eq_none_iff, hjoin other hother, byteCount_append] at h
  rw [textFault?_eq_none_iff, hjoin name hname.noSlash, byteCount_append]
  obtain ⟨hshown, hshort, -⟩ := h
  refine ⟨fun hmem ↦ ?_, (Nat.add_le_add_left hle _).trans_lt hshort, fun hempty ↦ ?_⟩
  · rcases List.mem_append.1 hmem with hlead | hmem
    · exact hshown (List.mem_append_left other hlead)
    · exact hzero hmem
  · exact hname.ne_nil (List.append_eq_nil_iff.1 hempty).2

/-- If a name can stand in a directory, so can any name that is no longer. -/
theorem NamesEntry.join_of_le (hother : Path.IsEntryName other) (hname : Path.IsEntryName name)
    (hzero : '\x00' ∉ name) (hle : byteCount name ≤ byteCount other)
    (h : tree.NamesEntry (directory.join ⟨other⟩)) : tree.NamesEntry (directory.join ⟨name⟩) := by
  obtain ⟨htext, hshort, hway⟩ := (namesEntry_join_iff hother).1 h
  exact (namesEntry_join_iff hname).2
    ⟨textFault?_join_of_le hother.noSlash hname hzero hle htext, hle.trans hshort, hway⟩

/-! ## Reading, dropping and moving -/

theorem NamesEntry.read_eq_ok_iff (h : tree.NamesEntry path) :
    tree.read path = .ok content ↔ tree.at? (tree.goal path) = some (.file content) := by
  unfold FileTree.read
  rw [h.locate_eq]
  cases hnode : tree.at? (tree.goal path) with
  | none => simp [bind, Except.bind]
  | some node => cases node <;> simp [bind, Except.bind, pure, Except.pure, throw, throwThe, MonadExceptOf.throw, hnode]

theorem follow_join (hname : Path.IsEntryName name) :
    tree.follow (tree.start (directory.join ⟨name⟩)) (Path.stretches (directory.join ⟨name⟩).chars) =
      tree.follow (tree.start directory) directory.way >>= fun parent ↦ tree.follow parent [name] := by
  rw [start_join tree directory hname.noSlash, Path.stretches_join directory hname.noSlash, follow_append]

/-- What can be read lies in a directory that is there. -/
theorem namesEntry_of_read (hname : Path.IsEntryName name) (h : tree.read (directory.join ⟨name⟩) = .ok content) :
    tree.NamesEntry (directory.join ⟨name⟩) := by
  unfold FileTree.read at h
  cases hlocate : tree.locate (directory.join ⟨name⟩) with
  | error fault =>
    rw [hlocate] at h
    cases h
  | ok location =>
    unfold FileTree.locate at hlocate
    cases htext : textFault? (directory.join ⟨name⟩) with
    | some fault => simp [htext] at hlocate
    | none =>
      simp only [htext] at hlocate
      rw [follow_join hname] at hlocate
      cases hway : tree.follow (tree.start directory) directory.way with
      | error fault => simp [hway, bind, Except.bind] at hlocate
      | ok parent =>
        simp only [hway, bind, Except.bind] at hlocate
        obtain ⟨hdir, hshort, -⟩ := follow_cons_eq_ok hlocate
          (not_or.2 ⟨hname.ne_nil, fun hdot ↦ hname.moves (.inl hdot)⟩) fun hdots ↦ hname.moves (.inr hdots)
        exact (namesEntry_join_iff hname).2 ⟨htext, Nat.le_of_not_lt hshort, parent, hway, hdir⟩

/-- A file that can be read by its name in a directory is held there. -/
theorem holds_of_read (hname : Path.IsEntryName name) (h : tree.read (directory.join ⟨name⟩) = .ok content) :
    tree.Holds (directory.join ⟨name⟩) content :=
  ⟨namesEntry_of_read hname h, (namesEntry_of_read hname h).read_eq_ok_iff.1 h⟩

theorem place_join (hname : Path.IsEntryName name) (htext : textFault? (directory.join ⟨name⟩) = none) :
    tree.place (directory.join ⟨name⟩) = tree.follow (tree.start directory) directory.way >>= fun parent ↦
      match tree.at? parent with
      | some (.dir _) =>
        if longestName < byteCount name then .error .nameTooLong else .ok (.entry parent name false)
      | _ => .error .notADirectory := by
  unfold place
  simp only [htext, Path.dropWhile_stretches_join directory hname, if_neg hname.moves, List.reverse_reverse,
    start_join tree directory hname.noSlash]
  refine bind_congr fun parent ↦ ?_
  cases tree.at? parent with
  | none => rfl
  | some node =>
    cases node with
    | file content => rfl
    | dir entries =>
      by_cases hlong : longestName < byteCount name
      · simp only [if_pos hlong]
        rfl
      · simp only [if_neg hlong, Path.stretches_join directory hname.noSlash]
        simp [pure, Except.pure]

/-- Where the way to a directory is no way, nothing is found behind it. -/
theorem nothing_behind (hname : Path.IsEntryName name) {fault : FileError}
    (h : tree.follow (tree.start directory) directory.way = .error fault) :
    tree.exists? (directory.join ⟨name⟩) = false ∧
      ∃ fault, tree.place (directory.join ⟨name⟩) = .error fault := by
  cases htext : textFault? (directory.join ⟨name⟩) with
  | some fault =>
    unfold exists? FileTree.locate place
    rw [htext]
    exact ⟨rfl, fault, rfl⟩
  | none =>
    rw [place_join hname htext, h]
    unfold exists? FileTree.locate
    rw [htext]
    simp only
    rw [follow_join hname, h]
    exact ⟨rfl, fault, rfl⟩

/-- Where a path names no entry of a directory there is none to be dropped, and if that is all that is wrong
the directory is missing. -/
theorem remove_of_not_namesEntry (hname : Path.IsEntryName name) (h : ¬ tree.NamesEntry (directory.join ⟨name⟩)) :
    ∃ fault, tree.remove (directory.join ⟨name⟩) = .error fault ∧
      (fault = .notFound → ∃ fault, tree.follow (tree.start directory) directory.way = .error fault) := by
  unfold FileTree.remove
  cases htext : textFault? (directory.join ⟨name⟩) with
  | some fault =>
    have hplace : tree.place (directory.join ⟨name⟩) = .error fault := by
      unfold place
      rw [htext]
    refine ⟨fault, by rw [hplace]; rfl, ?_⟩
    rintro rfl
    -- Only an empty text is missing whatever the tree holds.
    obtain ⟨lead, hjoin⟩ := exists_chars_join directory
    have hshown : (directory.join ⟨name⟩).chars ≠ [] := by
      rw [hjoin name hname.noSlash]
      exact fun hempty ↦ hname.ne_nil (List.append_eq_nil_iff.1 hempty).2
    unfold textFault? at htext
    grind
  | none =>
    rw [place_join hname htext]
    cases hway : tree.follow (tree.start directory) directory.way with
    | error fault => exact ⟨fault, rfl, fun _ ↦ ⟨fault, rfl⟩⟩
    | ok parent =>
      simp only [bind, Except.bind]
      cases hparent : tree.at? parent with
      | none => exact ⟨.notADirectory, rfl, nofun⟩
      | some node =>
        cases node with
        | file content => exact ⟨.notADirectory, rfl, nofun⟩
        | dir entries =>
          by_cases hlong : longestName < byteCount name
          · exact ⟨.nameTooLong, by simp only [if_pos hlong], nofun⟩
          · refine absurd ((namesEntry_join_iff hname).2 ⟨htext, Nat.le_of_not_lt hlong, parent, hway, ?_⟩) h
            exact ⟨entries, hparent⟩

/-- A directory cannot be removed as a file. -/
theorem remove_dir (h : tree.NamesEntry path) (hdir : tree.DirAt (tree.goal path)) :
    tree.remove path = .error .isADirectory := by
  obtain ⟨parent, name, hplace, hgoal⟩ := h.place_eq
  obtain ⟨entries, hentries⟩ := hdir
  unfold FileTree.remove
  simp only [hplace, bind, Except.bind, hgoal, hentries]
  rfl

/-- What is not there cannot be moved. -/
theorem rename_missing (hsource : tree.NamesEntry source) (htarget : tree.NamesEntry target)
    (hnone : tree.at? (tree.goal source) = none) : tree.rename source target = .error .notFound := by
  obtain ⟨parent, name, hplaced, hgoal⟩ := hsource.place_eq
  obtain ⟨targetParent, targetName, hplace, -⟩ := htarget.place_eq
  unfold FileTree.rename
  simp only [hplaced, hplace, bind, Except.bind, hgoal, hnone]
  rfl

theorem rename_of_place_eq_error {fault : FileError} (h : tree.place source = .error fault) :
    tree.rename source target = .error fault := by
  unfold FileTree.rename
  rw [h]
  rfl

/-- An entry is moved to a place where there is none. -/
theorem rename_free {node : FileNode} (hsource : tree.NamesEntry source) (htarget : tree.NamesEntry target)
    (hnode : tree.at? (tree.goal source) = some node) (hfree : tree.at? (tree.goal target) = none)
    (hapart : ¬ tree.goal source <+: tree.goal target) :
    tree.rename source target =
      .ok ((tree.change (tree.goal source) none).change (tree.goal target) (some node)) := by
  obtain ⟨parent, name, hplaced, hgoal⟩ := hsource.place_eq
  obtain ⟨targetParent, targetName, hplace, htargetGoal⟩ := htarget.place_eq
  have hne : tree.goal source ≠ tree.goal target := fun hsame ↦ hapart (hsame ▸ List.prefix_rfl)
  have hfault : replaceFault? node none = none := by cases node <;> rfl
  have hbelow : (tree.goal source).isPrefixOf (tree.goal target) = false := by
    rw [← Bool.not_eq_true, List.isPrefixOf_iff_prefix]
    exact hapart
  unfold FileTree.rename
  simp only [hplaced, hplace, bind, Except.bind, hgoal, htargetGoal, hnode, hfree, hfault, if_neg hne,
    hbelow, Bool.or_false, Bool.and_false, Bool.false_eq_true, if_false]
  rfl

end FleetAgent.FileTree
