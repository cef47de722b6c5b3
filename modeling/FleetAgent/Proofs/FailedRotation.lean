import FleetAgent.Proofs.LogRotation

/-!
# What a rotation that fails leaves behind

A rotation drops the oldest file and moves the others on before it looks for the live file. Whatever stands
at the places of the row, files or directories, the one thing that can be wrong so late is that the live
file is missing. Then the rotation fails with the oldest file gone, and as long as the live file does not
come back every further write that needs a rotation fails like that.
-/

namespace FleetAgent.Log.Rotating

variable {log : Rotating} {directory : Path} {name : String} {last m n : Nat} {tree next : FileTree}

/-! ## A row of entries -/

def rowPath (directory : Path) (name : String) (n : Nat) : Path := directory.join ⟨fileName name n⟩

theorem live_eq (hlive : log.live = liveOf directory name) : log.live = rowPath directory name 0 := hlive

theorem generation_eq (hlive : log.live = liveOf directory name) (n : Nat) :
    log.generation (n + 1) = rowPath directory name (n + 1) := by
  rw [rowPath, ← filePath_liveOf, ← hlive]
  rfl

/-- The entry at the n-th place of the row, whatever it is. -/
def entryAt (directory : Path) (name : String) (tree : FileTree) (n : Nat) : Option FileNode :=
  tree.at? (tree.goal directory ++ [fileName name n])

theorem at?_goal_rowPath (tree : FileTree) (n : Nat) :
    tree.at? (tree.goal (rowPath directory name n)) = entryAt directory name tree n := by
  rw [rowPath, FileTree.goal_join tree directory (isEntryName_fileName name n), entryAt]

/-- The directory is reached by names alone, so that no entry of the row stands on the way to it, and the
first places of the row have paths that fit. -/
structure Row (directory : Path) (name : String) (last : Nat) (tree : FileTree) : Prop where
  plain : ['.', '.'] ∉ directory.way
  names : ∀ n ≤ last, tree.NamesEntry (rowPath directory name n)

/-- Where the last path of a row fits the others do as well. -/
theorem row_of_last (hplain : ['.', '.'] ∉ directory.way)
    (h : tree.NamesEntry (rowPath directory name last)) : Row directory name last tree :=
  ⟨hplain, fun n hn ↦ h.join_of_le (isEntryName_fileName name last) (isEntryName_fileName name n)
    (zero_not_mem_fileName name n) (byteCount_fileName_le name hn)⟩

namespace Row

/-- Whether a file of the row is there is told by its entry. -/
theorem exists? (h : Row directory name last tree) (hn : n ≤ last) :
    tree.exists? (rowPath directory name n) = (entryAt directory name tree n).isSome := by
  rw [(h.names n hn).exists?, at?_goal_rowPath]

theorem read_eq_ok_iff (h : Row directory name last tree) (hn : n ≤ last) {content : ByteArray} :
    tree.read (rowPath directory name n) = .ok content ↔ entryAt directory name tree n = some (.file content) := by
  rw [(h.names n hn).read_eq_ok_iff, at?_goal_rowPath]

/-- Changing an entry of the row leaves the others as they are. -/
theorem change (h : Row directory name last tree) (n : Nat) (node? : Option FileNode) :
    Row directory name last (tree.change (tree.goal directory ++ [fileName name n]) node?) ∧
      entryAt directory name (tree.change (tree.goal directory ++ [fileName name n]) node?) =
        Function.update (entryAt directory name tree) n node? := by
  have hdir := (h.names 0 (Nat.zero_le last)).dirAt (isEntryName_fileName name 0)
  refine ⟨⟨h.plain, fun k hk ↦ (h.names k hk).change_entry (isEntryName_fileName name k) h.plain _ _⟩, ?_⟩
  funext k
  by_cases hk : k = n
  · subst hk
    rw [Function.update_self]
    exact FileTree.at?_change node? hdir
  · rw [Function.update_of_ne hk]
    exact FileTree.at?_change_entry (fun hsame ↦ hk (fileName_injective name hsame)) node?

theorem remove_file (h : Row directory name last tree) (hn : n ≤ last) {content : ByteArray}
    (hfile : entryAt directory name tree n = some (.file content)) :
    ∃ next, tree.remove (rowPath directory name n) = .ok next ∧ Row directory name last next ∧
      entryAt directory name next = Function.update (entryAt directory name tree) n none := by
  have hholds : tree.Holds (rowPath directory name n) content :=
    ⟨h.names n hn, (at?_goal_rowPath tree n).trans hfile⟩
  refine ⟨_, hholds.remove_eq, ?_⟩
  rw [rowPath, FileTree.goal_join tree directory (isEntryName_fileName name n)]
  exact h.change n none

/-- Whatever stands at a place is moved to a free one. -/
theorem rename_entry (h : Row directory name last tree) (hm : m ≤ last) (hn : n ≤ last) {node : FileNode}
    (hnode : entryAt directory name tree m = some node) (hfree : entryAt directory name tree n = none) :
    ∃ next, tree.rename (rowPath directory name m) (rowPath directory name n) = .ok next ∧
      Row directory name last next ∧
      entryAt directory name next =
        Function.update (Function.update (entryAt directory name tree) m none) n (some node) := by
  have hapart : ¬ tree.goal (rowPath directory name m) <+: tree.goal (rowPath directory name n) := by
    rw [rowPath, rowPath, FileTree.goal_join tree directory (isEntryName_fileName name m),
      FileTree.goal_join tree directory (isEntryName_fileName name n)]
    intro hprefix
    have hnames := (List.cons_prefix_cons.1 ((List.prefix_append_right_inj _).1 hprefix)).1
    rw [fileName_injective name hnames, hfree] at hnode
    cases hnode
  refine ⟨_, FileTree.rename_free (h.names m hm) (h.names n hn) ((at?_goal_rowPath tree m).trans hnode)
    ((at?_goal_rowPath tree n).trans hfree) hapart, ?_⟩
  rw [rowPath, rowPath, FileTree.goal_join tree directory (isEntryName_fileName name m),
    FileTree.goal_join tree directory (isEntryName_fileName name n)]
  obtain ⟨hdropped, hentries⟩ := h.change m none
  obtain ⟨hput, hmoved⟩ := hdropped.change n (some node)
  rw [hentries] at hmoved
  exact ⟨hput, hmoved⟩

end Row

/-! ## A row with a last place that can be cleared -/

variable {oldest : Nat}

namespace Row

/-- The entries move on by one over a free place, whatever they are. -/
theorem yields_shift (h : Row directory name last tree) (hlive : log.live = liveOf directory name)
    (hn : n + 1 ≤ last) (hfree : entryAt directory name tree (n + 1) = none) :
    ∃ next, Host.Yields (log.shift n) tree () next ∧ Row directory name last next ∧
      entryAt directory name next = moved (entryAt directory name tree) n := by
  refine yields_shift_of
    (P := fun entries tree ↦ Row directory name last tree ∧ entryAt directory name tree = entries)
    ?_ ?_ ⟨h, rfl⟩ (Nat.lt_succ_of_le hn) hfree
  · rintro _ tree n ⟨hrow, rfl⟩ hn
    rw [generation_eq hlive, hrow.exists? (Nat.le_of_lt_succ hn)]
  · rintro _ tree n node ⟨hrow, rfl⟩ hn hnode hfree
    obtain ⟨next, hrename, hmoved⟩ :=
      hrow.rename_entry (Nat.le_of_succ_le (Nat.le_of_lt_succ hn)) (Nat.le_of_lt_succ hn) hnode hfree
    rw [generation_eq hlive, generation_eq hlive]
    exact ⟨next, .alter hrename, hmoved⟩

/-- What stands at the last place is dropped, unless it is a directory. -/
theorem yields_dropIfThere (h : Row directory name last tree)
    (hlast : ∀ entries, entryAt directory name tree last ≠ some (.dir entries)) :
    ∃ next, Host.Yields (dropIfThere (rowPath directory name last)) tree () next ∧
      Row directory name last next ∧
      entryAt directory name next = Function.update (entryAt directory name tree) last none := by
  cases hentry : entryAt directory name tree last with
  | none =>
    refine ⟨tree, yields_dropIfThere_of_missing ?_, h, ?_⟩
    · exact FileTree.remove_missing (h.names last (Nat.le_refl last)) ((at?_goal_rowPath tree last).trans hentry)
    · rw [← hentry, Function.update_eq_self]
  | some node =>
    cases node with
    | dir entries => exact absurd hentry (hlast entries)
    | file content =>
      obtain ⟨next, hremove, hnext⟩ := h.remove_file (Nat.le_refl last) hentry
      exact ⟨next, yields_dropIfThere_of_removed hremove, hnext⟩

/-- The last place is cleared and the older entries move on. -/
theorem yields_clear (h : Row directory name (oldest + 1) tree) (hlive : log.live = liveOf directory name)
    (hlast : ∀ entries, entryAt directory name tree (oldest + 1) ≠ some (.dir entries)) :
    ∃ middle next, Host.Yields (dropIfThere (log.generation (oldest + 1))) tree () middle ∧
      Host.Yields (log.shift oldest) middle () next ∧ Row directory name (oldest + 1) next ∧
      entryAt directory name next = moved (entryAt directory name tree) oldest := by
  obtain ⟨middle, hdrop, hmiddle, hdropped⟩ := h.yields_dropIfThere hlast
  have hfree : entryAt directory name middle (oldest + 1) = none := by rw [hdropped, Function.update_self]
  obtain ⟨next, hshift, hnext, hentries⟩ := hmiddle.yields_shift hlive (Nat.le_refl _) hfree
  rw [hdropped, moved_update] at hentries
  rw [generation_eq hlive]
  exact ⟨middle, next, hdrop, hshift, hnext, hentries⟩

/-- A live entry goes to the place that the shift has left, and a new live file is made. -/
theorem yields_renew (h : Row directory name last tree) (hlive : log.live = liveOf directory name)
    (hlast : 1 ≤ last) {node : FileNode} (hnode : entryAt directory name tree 0 = some node)
    (hfree : entryAt directory name tree 1 = none) :
    ∃ file middle next, Host.Yields (Host.alter (·.rename log.live (log.generation 1))) tree () middle ∧
      Host.Yields (openLive log.live) middle file next := by
  rw [generation_eq hlive, live_eq hlive]
  obtain ⟨middle, hrename, hmiddle, hentries⟩ := h.rename_entry (Nat.zero_le last) hlast hnode hfree
  have hgone : middle.at? (middle.goal (rowPath directory name 0)) = none := by
    rw [at?_goal_rowPath, hentries, Function.update_of_ne Nat.zero_ne_one, Function.update_self]
  obtain ⟨next, hopen, -⟩ := FileTree.openToWrite_file (hmiddle.names 0 (Nat.zero_le last))
    (FileTree.not_dirAt_of_none hgone) true
  exact ⟨_, middle, next, .alter hrename, .call hopen⟩

/-- Without a live file there is nothing to move to the first of the older places. -/
theorem fails_renew (h : Row directory name last tree) (hlive : log.live = liveOf directory name)
    (hlast : 1 ≤ last) (hnone : entryAt directory name tree 0 = none) :
    Host.Fails (Host.alter (·.rename log.live (log.generation 1))) tree .notFound tree := by
  rw [generation_eq hlive, live_eq hlive]
  exact .alter (FileTree.rename_missing (h.names 0 (Nat.zero_le last)) (h.names 1 hlast)
    ((at?_goal_rowPath tree 0).trans hnone))

end Row

/-! ## Every way to fail -/

/-- There is no live entry, and the older ones have moved on over the last of them. -/
structure Overrun (directory : Path) (name : String) (oldest : Nat) (tree next : FileTree) : Prop where
  before : Row directory name (oldest + 1) tree
  live : entryAt directory name tree 0 = none
  after : Row directory name (oldest + 1) next
  entries : entryAt directory name next = moved (entryAt directory name tree) oldest

/-- What a rotation that fails leaves behind: it has not got past the last place, which cannot be cleared, or
has overrun it. -/
inductive Stopped (log : Rotating) (directory : Path) (name : String) (tree : FileTree) : FileTree → Prop
  | unmoved (hlast : ∀ oldest, log.keep = oldest + 2 → Row directory name (oldest + 1) tree →
      ∃ entries, entryAt directory name tree (oldest + 1) = some (.dir entries)) :
      Stopped log directory name tree tree
  | overrun {oldest : Nat} {next : FileTree} (hkeep : log.keep = oldest + 2)
      (hover : Overrun directory name oldest tree next) : Stopped log directory name tree next

/-- Where nothing of the row is found there is nothing to move on. -/
theorem yields_shift_nothing (h : ∀ n, tree.exists? (log.generation (n + 1)) = false) (n : Nat) :
    Host.Yields (log.shift n) tree () tree := by
  induction n with
  | zero => exact .pure () tree
  | succ n ih =>
    rw [shift_succ]
    refine (Host.Yields.look _ tree).bind ?_
    rw [h n]
    exact (Host.Yields.pure () tree).bind ih

theorem rotate_of_one (h : log.keep ≤ 1) :
    log.rotate = Host.call (·.openToWrite false log.live) >>= fun file ↦ pure { log with file, written := 0 } := by
  unfold rotate
  rw [if_pos (by omega)]

theorem rotate_of_more (h : log.keep = oldest + 2) :
    log.rotate = dropIfThere (log.generation (oldest + 1)) >>= fun _ ↦ log.shift oldest >>= fun _ ↦
      Host.alter (·.rename log.live (log.generation 1)) >>= fun _ ↦ openLive log.live >>= fun file ↦
        pure { log with file, written := 0 } := by
  unfold rotate
  rw [h, if_neg (by omega)]
  rfl

/-- A rotation of a row goes well, unless the last entry is a directory or there is no live one. -/
theorem Row.rotate_cases (h : Row directory name (oldest + 1) tree) (hlive : log.live = liveOf directory name)
    (hkeep : log.keep = oldest + 2) :
    (∃ after next, Host.Yields log.rotate tree after next) ∨
      ∃ fault next, Host.Fails log.rotate tree fault next ∧ Stopped log directory name tree next := by
  rw [rotate_of_more hkeep]
  by_cases hdir : ∃ entries, entryAt directory name tree (oldest + 1) = some (.dir entries)
  · obtain ⟨entries, hentries⟩ := hdir
    have hremove := FileTree.remove_dir (h.names _ (Nat.le_refl _))
      ⟨entries, (at?_goal_rowPath tree (oldest + 1)).trans hentries⟩
    rw [← generation_eq hlive] at hremove
    refine .inr ⟨_, tree, (fails_dropIfThere hremove nofun).bind, .unmoved fun other hother _ ↦ ?_⟩
    obtain rfl := Nat.add_right_cancel (hkeep.symm.trans hother)
    exact ⟨entries, hentries⟩
  · obtain ⟨middle, next, hdrop, hshift, hnext, hmoved⟩ := h.yields_clear hlive (not_exists.1 hdir)
    have hstays : entryAt directory name next 0 = entryAt directory name tree 0 := by rw [hmoved, moved]
    cases hnode : entryAt directory name tree 0 with
    | none =>
      refine .inr ⟨.notFound, next, ?_, .overrun hkeep ⟨h, hnode, hnext, hmoved⟩⟩
      refine .after (.after ?_ hshift) hdrop
      exact (hnext.fails_renew hlive (Nat.le_add_left 1 oldest) (hstays.trans hnode)).bind
    | some node =>
      have hfree : entryAt directory name next 1 = none := by rw [hmoved, moved]
      obtain ⟨file, put, last, hrename, hopen⟩ :=
        hnext.yields_renew hlive (Nat.le_add_left 1 oldest) (hstays.trans hnode) hfree
      exact .inl ⟨_, last, hdrop.bind (hshift.bind (hrename.bind (hopen.bind (.pure _ last))))⟩

/-- Where the last path does not fit it cannot be dropped, and where the directory is missing nothing of the
row is found. -/
theorem fails_rotate_of_not_namesEntry (h : ¬ tree.NamesEntry (rowPath directory name (oldest + 1)))
    (hlive : log.live = liveOf directory name) (hkeep : log.keep = oldest + 2) :
    ∃ fault, Host.Fails log.rotate tree fault tree := by
  rw [rotate_of_more hkeep]
  obtain ⟨fault, hremove, hway⟩ :=
    FileTree.remove_of_not_namesEntry (isEntryName_fileName name (oldest + 1)) h
  rw [← rowPath, ← generation_eq hlive] at hremove
  by_cases hfault : fault = .notFound
  · subst hfault
    obtain ⟨fault, hway⟩ := hway rfl
    have hnothing (n : Nat) := FileTree.nothing_behind (isEntryName_fileName name n) hway
    have hfound (n : Nat) : tree.exists? (log.generation (n + 1)) = false := by
      rw [generation_eq hlive]
      exact (hnothing (n + 1)).1
    obtain ⟨fault, hplace⟩ : ∃ fault, tree.place log.live = .error fault := live_eq hlive ▸ (hnothing 0).2
    refine ⟨fault, ?_⟩
    refine .after (.after ?_ (yields_shift_nothing hfound oldest)) (yields_dropIfThere_of_missing hremove)
    exact (Host.Fails.alter (FileTree.rename_of_place_eq_error hplace)).bind
  · exact ⟨fault, (fails_dropIfThere hremove hfault).bind⟩

/-- A rotation goes well, or leaves the row in one of the ways in which it can stop. -/
theorem rotate_cases (hlive : log.live = liveOf directory name) (hplain : ['.', '.'] ∉ directory.way)
    (tree : FileTree) :
    (∃ after next, Host.Yields log.rotate tree after next) ∨
      ∃ fault next, Host.Fails log.rotate tree fault next ∧ Stopped log directory name tree next := by
  by_cases hone : log.keep ≤ 1
  · rw [rotate_of_one hone]
    cases hopen : tree.openToWrite false log.live with
    | error fault =>
      exact .inr ⟨fault, tree, (Host.Fails.call hopen).bind, .unmoved fun oldest hkeep _ ↦ by omega⟩
    | ok opened => exact .inl ⟨_, opened.2, (Host.Yields.call hopen).bind (.pure _ opened.2)⟩
  · obtain ⟨oldest, hkeep⟩ : ∃ oldest, log.keep = oldest + 2 := ⟨log.keep - 2, by omega⟩
    by_cases hentry : tree.NamesEntry (rowPath directory name (oldest + 1))
    · exact (row_of_last hplain hentry).rotate_cases hlive hkeep
    · obtain ⟨fault, hfails⟩ := fails_rotate_of_not_namesEntry hentry hlive hkeep
      refine .inr ⟨fault, tree, hfails, .unmoved fun other hother hrow ↦ ?_⟩
      obtain rfl := Nat.add_right_cancel (hkeep.symm.trans hother)
      exact absurd (hrow.names _ (Nat.le_refl _)) hentry

/-- A write goes wrong only in the rotation before it. -/
theorem write_cases (hlive : log.live = liveOf directory name) (hplain : ['.', '.'] ∉ directory.way)
    (bytes : ByteArray) (tree : FileTree) :
    (∃ after next, Host.Yields (log.write bytes) tree after next) ∨
      ∃ fault next, Host.Fails (log.write bytes) tree fault next ∧ Stopped log directory name tree next := by
  have hadd (log : Rotating) (tree : FileTree) : ∃ after next, Host.Yields
      (Host.alter (fun tree ↦ .ok (tree.append log.file bytes)) >>= fun _ ↦
        pure { log with written := log.written + bytes.size } : HostM FileError Rotating) tree after next := by
    have hadded : Host.Yields (Host.alter fun tree ↦ .ok (tree.append log.file bytes) : HostM FileError Unit) tree ()
        (tree.append log.file bytes) := .alter rfl
    exact ⟨_, _, hadded.bind (.pure _ _)⟩
  unfold write
  cases log.isFull bytes with
  | false =>
    obtain ⟨after, next, hadded⟩ := hadd log tree
    exact .inl ⟨after, next, (Host.Yields.pure log tree).bind hadded⟩
  | true =>
    rcases rotate_cases hlive hplain tree with ⟨renewed, middle, hrotate⟩ | ⟨fault, next, hrotate, hstopped⟩
    · obtain ⟨after, next, hadded⟩ := hadd renewed middle
      exact .inl ⟨after, next, hrotate.bind hadded⟩
    · exact .inr ⟨fault, next, hrotate.bind, hstopped⟩

/-- A write that fails has stopped in its rotation. -/
theorem stopped_of_write {host after : Host} {bytes : ByteArray} {fault : FileError}
    (hlive : log.live = liveOf directory name) (hplain : ['.', '.'] ∉ directory.way) (hquiet : host.Undisturbed)
    (h : log.write bytes host = (.error fault, after)) :
    Stopped log directory name host.tree after.tree ∧ after.Undisturbed := by
  rcases write_cases hlive hplain bytes host.tree with ⟨value, next, hyields⟩ | ⟨error, next, hfails, hstopped⟩
  · obtain ⟨rested, hvalue, -⟩ := hyields host (.of_undisturbed hquiet)
    rw [h] at hvalue
    cases hvalue
  · obtain ⟨rested, herror, hrested⟩ := hfails host (.of_undisturbed hquiet)
    rw [h] at herror
    obtain ⟨-, rfl⟩ := Prod.mk.inj herror
    exact ⟨hrested.tree_eq ▸ hstopped, hrested.undisturbed⟩

/-! ## What is still there afterwards -/

/-- The content of the n-th of the older files that the log keeps. -/
structure Keeps (log : Rotating) (tree : FileTree) (n : Nat) (content : ByteArray) : Prop where
  pos : 0 < n
  lt : n < log.keep
  read : tree.read (log.generation n) = .ok content

variable {content : ByteArray}

/-- The older files that are kept are the entries of the row behind the live one. -/
theorem Row.keeps_iff (h : Row directory name (oldest + 1) tree) (hlive : log.live = liveOf directory name)
    (hkeep : log.keep = oldest + 2) :
    log.Keeps tree (n + 1) content ↔ n ≤ oldest ∧ entryAt directory name tree (n + 1) = some (.file content) := by
  constructor
  · rintro ⟨-, hlt, hread⟩
    have hn : n ≤ oldest := by omega
    rw [generation_eq hlive, h.read_eq_ok_iff (Nat.succ_le_succ hn)] at hread
    exact ⟨hn, hread⟩
  · rintro ⟨hn, hentry⟩
    refine ⟨Nat.succ_pos n, by omega, ?_⟩
    rwa [generation_eq hlive, h.read_eq_ok_iff (Nat.succ_le_succ hn)]

/-- Where the oldest file can be read the row is there. -/
theorem Keeps.row (h : log.Keeps tree (oldest + 1) content) (hlive : log.live = liveOf directory name)
    (hplain : ['.', '.'] ∉ directory.way) : Row directory name (oldest + 1) tree := by
  have hread := h.read
  rw [generation_eq hlive] at hread
  exact row_of_last hplain (FileTree.namesEntry_of_read (isEntryName_fileName name (oldest + 1)) hread)

/-- Each file that is kept has come from the place before. -/
theorem Overrun.keeps_iff (h : Overrun directory name oldest tree next) (hlive : log.live = liveOf directory name)
    (hkeep : log.keep = oldest + 2) (n : Nat) (content : ByteArray) :
    log.Keeps next n content ↔ 1 < n ∧ n < log.keep ∧ log.Keeps tree (n - 1) content := by
  match n with
  | 0 => exact ⟨fun hkept ↦ absurd hkept.pos (Nat.lt_irrefl 0), by omega⟩
  | 1 =>
    rw [h.after.keeps_iff hlive hkeep, h.entries]
    simp [moved]
  | k + 2 =>
    rw [h.after.keeps_iff hlive hkeep, h.entries, Nat.add_sub_cancel (k + 1) 1, h.before.keeps_iff hlive hkeep]
    simp only [moved]
    grind

theorem Overrun.live_gone (h : Overrun directory name oldest tree next) (hlive : log.live = liveOf directory name) :
    tree.exists? log.live = false := by
  rw [live_eq hlive, h.before.exists? (Nat.zero_le _), h.live]
  rfl

namespace Stopped

/-- While the live file is there nothing happens to the others. -/
theorem eq_of_live (h : Stopped log directory name tree next) (hlive : log.live = liveOf directory name)
    (hthere : tree.exists? log.live = true) : next = tree := by
  cases h with
  | unmoved => rfl
  | overrun _ hover =>
    rw [hover.live_gone hlive] at hthere
    cases hthere

/-- A file is still there after a rotation that failed, at its own place or at the next one, unless it was
the last. -/
theorem keeps (h : Stopped log directory name tree next) (hlive : log.live = liveOf directory name)
    (hkept : log.Keeps tree n content) (hn : n + 1 < log.keep) :
    log.Keeps next n content ∨ log.Keeps next (n + 1) content := by
  cases h with
  | unmoved => exact .inl hkept
  | overrun hkeep hover =>
    exact .inr ((hover.keeps_iff hlive hkeep (n + 1) content).2 ⟨Nat.succ_lt_succ hkept.pos, hn, hkept⟩)

/-- All that is kept is still kept if the live file is there or the oldest file is not the only one that
holds what it does. -/
theorem keeps_all_iff (h : Stopped log directory name tree next) (hlive : log.live = liveOf directory name)
    (hplain : ['.', '.'] ∉ directory.way) :
    (∀ n content, log.Keeps tree n content → ∃ m, log.Keeps next m content) ↔
      tree.exists? log.live = true ∨
        ∀ content, log.Keeps tree (log.keep - 1) content → ∃ m < log.keep - 1, log.Keeps tree m content := by
  cases h with
  | unmoved hlast =>
    refine ⟨fun _ ↦ .inr fun content hkept ↦ ?_, fun _ n content hkept ↦ ⟨n, hkept⟩⟩
    obtain ⟨oldest, hkeep⟩ : ∃ oldest, log.keep = oldest + 2 := ⟨log.keep - 2, by have := hkept.pos; omega⟩
    rw [hkeep, Nat.add_sub_cancel (oldest + 1) 1] at hkept
    have hrow := hkept.row hlive hplain
    obtain ⟨entries, hentries⟩ := hlast oldest hkeep hrow
    rw [((hrow.keeps_iff hlive hkeep).1 hkept).2] at hentries
    cases hentries
  | overrun hkeep hover =>
    rw [hover.live_gone hlive]
    simp only [hover.keeps_iff hlive hkeep, Bool.false_eq_true, false_or]
    constructor
    · intro hall content hoff
      obtain ⟨m, hpos, hlt, hheld⟩ := hall _ content hoff
      exact ⟨m - 1, by omega, hheld⟩
    · intro hoff n content hheld
      by_cases hn : n = log.keep - 1
      · subst hn
        obtain ⟨m, hm, hheld⟩ := hoff content hheld
        exact ⟨m + 1, Nat.succ_lt_succ hheld.pos, by omega, hheld⟩
      · have hlt := hheld.lt
        exact ⟨n + 1, Nat.succ_lt_succ hheld.pos, by omega, hheld⟩

end Stopped

/-! ## Row after row -/

/-- There is no live file, and what there is of the others can be moved on and dropped. -/
structure Orphaned (log : Rotating) (directory : Path) (name : String) (oldest : Nat) (tree : FileTree) : Prop where
  keep : log.keep = oldest + 2
  row : Row directory name (oldest + 1) tree
  live : entryAt directory name tree 0 = none
  files : ∀ n ≤ oldest, ∀ entries, entryAt directory name tree (n + 1) ≠ some (.dir entries)

theorem orphaned_of_read (hlive : log.live = liveOf directory name) (hplain : ['.', '.'] ∉ directory.way)
    (hgone : tree.exists? log.live = false) (hoff : log.Keeps tree (log.keep - 1) content)
    (hfiles : ∀ n, 0 < n → n < log.keep → tree.exists? (log.generation n) = true →
      ∃ content, tree.read (log.generation n) = .ok content) :
    ∃ oldest, Orphaned log directory name oldest tree := by
  obtain ⟨oldest, hkeep⟩ : ∃ oldest, log.keep = oldest + 2 := ⟨log.keep - 2, by have := hoff.pos; omega⟩
  rw [hkeep, Nat.add_sub_cancel (oldest + 1) 1] at hoff
  have hrow := hoff.row hlive hplain
  refine ⟨oldest, hkeep, hrow, ?_, fun n hn entries hdir ↦ ?_⟩
  · rwa [live_eq hlive, hrow.exists? (Nat.zero_le _), Option.isSome_eq_false_iff, Option.isNone_iff_eq_none] at hgone
  · have hthere : tree.exists? (log.generation (n + 1)) = true := by
      rw [generation_eq hlive, hrow.exists? (Nat.succ_le_succ hn), hdir]
      rfl
    obtain ⟨content, hread⟩ := hfiles (n + 1) (Nat.succ_pos n) (by omega) hthere
    rw [generation_eq hlive, hrow.read_eq_ok_iff (Nat.succ_le_succ hn), hdir] at hread
    cases hread

/-- Without a live file a failed rotation moves all older files on, and the last one is lost. -/
theorem Orphaned.stopped (h : Orphaned log directory name oldest tree) (hlive : log.live = liveOf directory name)
    (hstopped : Stopped log directory name tree next) :
    Orphaned log directory name oldest next ∧
      ∀ n content, log.Keeps next n content ↔ 1 < n ∧ n < log.keep ∧ log.Keeps tree (n - 1) content := by
  cases hstopped with
  | unmoved hlast =>
    obtain ⟨entries, hdir⟩ := hlast oldest h.keep h.row
    exact absurd hdir (h.files oldest (Nat.le_refl oldest) entries)
  | overrun hkeep hover =>
    obtain rfl := Nat.add_right_cancel (h.keep.symm.trans hkeep)
    refine ⟨⟨hkeep, hover.after, ?_, fun n hn entries ↦ ?_⟩, hover.keeps_iff hlive hkeep⟩
    · rw [hover.entries, moved, hover.live]
    · rw [hover.entries]
      cases n with
      | zero => simp [moved]
      | succ k =>
        simp only [moved]
        split
        · exact h.files k (by omega) entries
        · exact h.files (k + 1) hn entries

/-- Writes that all fail, one after the other, with nothing else happening in between. -/
inductive FailedWrites (log : Rotating) : Nat → Host → Host → Prop
  | none (host : Host) : FailedWrites log 0 host host
  | more {count : Nat} {host middle after : Host} {bytes : ByteArray} {fault : FileError}
      (hbefore : FailedWrites log count host middle) (hwrite : log.write bytes middle = (.error fault, after)) :
      FailedWrites log (count + 1) host after

variable {host after : Host} {count : Nat}

/-- What each rotation that fails keeps up is kept up by all of them. -/
theorem FailedWrites.induct {P : Nat → FileTree → Prop} (h : log.FailedWrites count host after)
    (hlive : log.live = liveOf directory name) (hplain : ['.', '.'] ∉ directory.way) (hquiet : host.Undisturbed)
    (hnone : P 0 host.tree)
    (hmore : ∀ count tree next, P count tree → Stopped log directory name tree next → P (count + 1) next) :
    P count after.tree ∧ after.Undisturbed := by
  induction h with
  | none host => exact ⟨hnone, hquiet⟩
  | more hbefore hwrite ih =>
    obtain ⟨hmiddle, hrests⟩ := ih hquiet hnone
    obtain ⟨hstopped, hafter⟩ := stopped_of_write hlive hplain hrests hwrite
    exact ⟨hmore _ _ _ hmiddle hstopped, hafter⟩

/-- As long as the live file is there writes that fail change nothing. Without it each of them may move an
older file on by one place and no further. What is lost by the first one is what the oldest file alone has
held, and where all the older files can be read each write moves them on, until none of them is left. -/
theorem failed_writes_keep (hlive : log.live = liveOf directory name)
    (hplain : ['.', '.'] ∉ Path.stretches directory.chars) (hquiet : host.Undisturbed)
    (h : log.FailedWrites count host after) :
    (host.tree.exists? log.live = true → after.tree = host.tree) ∧
      (∀ n content, log.Keeps host.tree n content → n + count < log.keep →
        ∃ m, n ≤ m ∧ m ≤ n + count ∧ log.Keeps after.tree m content) ∧
      (count = 1 → ((∀ n content, log.Keeps host.tree n content → ∃ m, log.Keeps after.tree m content) ↔
        host.tree.exists? log.live = true ∨ ∀ content, log.Keeps host.tree (log.keep - 1) content →
          ∃ m < log.keep - 1, log.Keeps host.tree m content)) ∧
      (host.tree.exists? log.live = false → (∃ content, log.Keeps host.tree (log.keep - 1) content) →
        (∀ n, 0 < n → n < log.keep → host.tree.exists? (log.generation n) = true →
          ∃ content, host.tree.read (log.generation n) = .ok content) →
        ∀ n content, log.Keeps after.tree n content ↔
          count < n ∧ n < log.keep ∧ log.Keeps host.tree (n - count) content) := by
  have hway : ['.', '.'] ∉ directory.way := by
    intro hmem
    rcases Path.stretches_eq_way directory with hsplit | hsplit
    · exact hplain (hsplit ▸ hmem)
    · exact hplain (hsplit ▸ List.mem_append_left _ hmem)
  refine ⟨fun hthere ↦ ?_, ?_, ?_, fun hgone hoff hfiles ↦ ?_⟩
  · refine (h.induct (P := fun _ tree ↦ tree = host.tree) hlive hway hquiet rfl ?_).1
    rintro _ _ next rfl hstopped
    exact hstopped.eq_of_live hlive hthere
  · refine (h.induct (P := fun count tree ↦ ∀ n content, log.Keeps host.tree n content → n + count < log.keep →
      ∃ m, n ≤ m ∧ m ≤ n + count ∧ log.Keeps tree m content) hlive hway hquiet ?_ ?_).1
    · exact fun n content hkept _ ↦ ⟨n, Nat.le_refl n, Nat.le_refl n, hkept⟩
    · intro count tree next ih hstopped n content hkept hroom
      obtain ⟨m, hfrom, hto, hheld⟩ := ih n content hkept (by omega)
      rcases hstopped.keeps hlive hheld (by omega) with hnext | hnext
      · exact ⟨m, hfrom, by omega, hnext⟩
      · exact ⟨m + 1, by omega, by omega, hnext⟩
  · rintro rfl
    cases h with
    | more hbefore hwrite =>
      cases hbefore
      exact (stopped_of_write hlive hway hquiet hwrite).1.keeps_all_iff hlive hway
  · obtain ⟨content, hoff⟩ := hoff
    obtain ⟨oldest, horphaned⟩ := orphaned_of_read hlive hway hgone hoff hfiles
    refine (h.induct (P := fun count tree ↦ Orphaned log directory name oldest tree ∧ ∀ n content,
      log.Keeps tree n content ↔ count < n ∧ n < log.keep ∧ log.Keeps host.tree (n - count) content)
      hlive hway hquiet ⟨horphaned, fun n content ↦ ?_⟩ ?_).1.2
    · exact ⟨fun hkept ↦ ⟨hkept.pos, hkept.lt, hkept⟩, fun hkept ↦ hkept.2.2⟩
    · rintro count tree next ⟨horphaned, hkept⟩ hstopped
      obtain ⟨hnext, hmoved⟩ := horphaned.stopped hlive hstopped
      refine ⟨hnext, fun n content ↦ ?_⟩
      rw [hmoved, hkept, Nat.sub_sub, Nat.add_comm 1 count]
      constructor
      · rintro ⟨-, hlt, hcount, -, hheld⟩
        exact ⟨by omega, hlt, hheld⟩
      · rintro ⟨hcount, hlt, hheld⟩
        exact ⟨by omega, hlt, by omega, by omega, hheld⟩

def whole : Host where
  tree.root := .dir [("var".toList, .dir [("log".toList, .dir [("fleet.log".toList, .file "live\n".toUTF8),
    ("fleet.log.1".toList, .file "new\n".toUTF8), ("fleet.log.2".toList, .file "old\n".toUTF8)])])]

/-- The log is opened, and then its live file is taken away. -/
def plunder : HostM FileError Rotating := do
  let log ← openLog (.ofString "/var/log") "fleet" 3 8
  Host.alter (·.remove log.live)
  return log

def plundered : Host where
  tree := (plunder whole).2.tree

def fleetLog : Rotating where
  live := liveOf (.ofString "/var/log") "fleet"
  file := ["var".toList, "log".toList, "fleet.log".toList]
  keep := 3
  limit := 8
  written := 5

theorem fleetLog_opened : (plunder whole).1 = .ok fleetLog := by decide +kernel

theorem plundered_keeps :
    fleetLog.Keeps plundered.tree 1 "new\n".toUTF8 ∧ fleetLog.Keeps plundered.tree 2 "old\n".toUTF8 :=
  ⟨⟨by decide, by decide, by decide +kernel⟩, ⟨by decide, by decide, by decide +kernel⟩⟩

/-- The host after a line has been written to the log, which fails. -/
def onward (host : Host) : Host := (fleetLog.write "a line\n".toUTF8 host).2

theorem plundered_writes :
    (fleetLog.write "a line\n".toUTF8 plundered).1 = .error .notFound ∧
      (fleetLog.write "a line\n".toUTF8 (onward plundered)).1 = .error .notFound := by
  constructor <;> decide +kernel

/-- After two writes that fail none of the older files is left. -/
theorem plundered_keeps_nothing :
    fleetLog.live = liveOf (.ofString "/var/log") "fleet" ∧
      ['.', '.'] ∉ Path.stretches (Path.ofString "/var/log").chars ∧ plundered.Undisturbed ∧
      ∃ after, fleetLog.FailedWrites 2 plundered after ∧ ∀ n content, ¬ fleetLog.Keeps after.tree n content := by
  have hlive : fleetLog.live = liveOf (.ofString "/var/log") "fleet" := rfl
  have hplain : ['.', '.'] ∉ Path.stretches (Path.ofString "/var/log").chars := by decide
  have hquiet : plundered.Undisturbed := fun _ _ ↦ rfl
  have hfails : fleetLog.FailedWrites 2 plundered (onward (onward plundered)) :=
    .more (.more (.none plundered) (Prod.ext plundered_writes.1 rfl)) (Prod.ext plundered_writes.2 rfl)
  obtain ⟨-, -, -, hlost⟩ := failed_writes_keep hlive hplain hquiet hfails
  have hgone : plundered.tree.exists? fleetLog.live = false := by decide +kernel
  have hfiles (n : Nat) (hpos : 0 < n) (hn : n < fleetLog.keep)
      (_ : plundered.tree.exists? (fleetLog.generation n) = true) :
      ∃ content, plundered.tree.read (fleetLog.generation n) = .ok content :=
    match n, hpos, hn with
    | 1, _, _ => ⟨_, plundered_keeps.1.read⟩
    | 2, _, _ => ⟨_, plundered_keeps.2.read⟩
  refine ⟨hlive, hplain, hquiet, _, hfails, fun n content hkept ↦ ?_⟩
  obtain ⟨hfrom, hto, -⟩ := (hlost hgone ⟨_, plundered_keeps.2⟩ hfiles n content).1 hkept
  exact absurd hto (Nat.not_lt.2 hfrom)

/-- The oldest file is lost by the first write that fails. -/
theorem plundered_oldest_lost :
    (plunder whole).1 = .ok fleetLog ∧ fleetLog.Keeps plundered.tree 2 "old\n".toUTF8 ∧
      (fleetLog.write "a line\n".toUTF8 plundered).1 = .error .notFound ∧
      ∀ n, ¬ fleetLog.Keeps (fleetLog.write "a line\n".toUTF8 plundered).2.tree n "old\n".toUTF8 := by
  refine ⟨fleetLog_opened, plundered_keeps.2, plundered_writes.1, fun n hkept ↦ ?_⟩
  have hlost : ∀ n < 3, (onward plundered).tree.read (fleetLog.generation n) ≠ .ok "old\n".toUTF8 := by
    decide +kernel
  exact hlost n hkept.lt hkept.read

end FleetAgent.Log.Rotating
