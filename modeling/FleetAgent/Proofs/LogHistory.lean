import FleetAgent.Proofs.LogRotation

/-!
# What a log keeps of its history

The files of a log are made of pieces: what each file held when the log was opened, and the texts that
were written since. A write puts one piece at the end of the live file, and a rotation ahead of it drops
the pieces of the oldest file. So the files together hold the latest pieces, each of them whole, in the
order in which they came.
-/

namespace FleetAgent.Log.Rotating

variable {log : Rotating} {groups : Nat → List ByteArray} {tree later : FileTree}

def joined : List ByteArray → ByteArray
  | [] => .empty
  | piece :: rest => piece ++ joined rest

theorem joined_append (pieces more : List ByteArray) :
    joined (pieces ++ more) = joined pieces ++ joined more := by
  induction pieces with
  | nil => exact ByteArray.empty_append.symm
  | cons piece rest ih =>
    rw [List.cons_append, joined, ih, joined, ByteArray.append_assoc]

@[simp]
theorem joined_toList (content? : Option ByteArray) : joined content?.toList = content?.getD .empty := by
  cases content? with
  | none => rfl
  | some content => exact ByteArray.append_empty

/-- The pieces in the first `n` files of a row, those of the oldest file first. -/
def laid (groups : Nat → List ByteArray) : Nat → List ByteArray
  | 0 => []
  | n + 1 => groups n ++ laid groups n

/-- The live file comes last. -/
theorem laid_succ (groups : Nat → List ByteArray) (n : Nat) :
    laid groups (n + 1) = laid (fun k ↦ groups (k + 1)) n ++ groups 0 := by
  induction n with
  | zero => simp [laid]
  | succ n ih => rw [laid, ih, laid, List.append_assoc]

theorem joined_laid {groups groups' : Nat → List ByteArray} {n : Nat}
    (h : ∀ k < n, joined (groups k) = joined (groups' k)) :
    joined (laid groups n) = joined (laid groups' n) := by
  induction n with
  | zero => rfl
  | succ n ih =>
    rw [laid, laid, joined_append, joined_append, h n (Nat.lt_succ_self n),
      ih fun k hk ↦ h k (Nat.lt_succ_of_lt hk)]

theorem Continues.refl (log : Rotating) : log.Continues log := ⟨rfl, rfl, rfl, rfl⟩

theorem Continues.trans {first second third : Rotating} (h : first.Continues second)
    (h' : second.Continues third) : first.Continues third :=
  ⟨h'.live.trans h.live, h'.keep.trans h.keep, h'.limit.trans h.limit, h'.file.trans h.file⟩

/-- What is changed is the row throughout. -/
theorem Continues.changesOnly {middle : Rotating} {rested : FileTree} (hmiddle : log.Continues middle)
    (h : FileTree.ChangesOnly (InRow log.live log.keep tree) tree rested)
    (h' : FileTree.ChangesOnly (InRow middle.live middle.keep rested) rested later) :
    FileTree.ChangesOnly (InRow log.live log.keep tree) tree later := by
  refine h.trans (h'.mono ?_)
  rintro _ ⟨n, hn, rfl⟩
  rw [h.toKeepsDirs.goal, hmiddle.live]
  exact ⟨n, hmiddle.keep ▸ hn, rfl⟩

/-- The log is open, and its files hold the pieces. -/
structure Filled (log : Rotating) (groups : Nat → List ByteArray) (tree : FileTree) : Prop where
  files : ∃ files, log.Open files tree ∧ (files 0).isSome ∧
    ∀ n < log.keep, (files n).getD .empty = joined (groups n)

def extended (groups : Nat → List ByteArray) (text : ByteArray) : Nat → List ByteArray
  | 0 => groups 0 ++ [text]
  | n + 1 => groups (n + 1)

/-- The pieces with a new live file that has none. -/
def pushed (groups : Nat → List ByteArray) : Nat → List ByteArray
  | 0 => []
  | n + 1 => groups n

/-- A text behind the live file is the last one of all pieces. -/
theorem laid_extended (groups : Nat → List ByteArray) (text : ByteArray) {n : Nat} (hn : 0 < n) :
    laid (extended groups text) n = laid groups n ++ [text] := by
  obtain ⟨n, rfl⟩ := Nat.exists_eq_succ_of_ne_zero hn.ne'
  rw [laid_succ, laid_succ]
  exact (List.append_assoc _ _ _).symm

/-- A new live file drops the pieces of the oldest one. -/
theorem laid_pushed (groups : Nat → List ByteArray) {n : Nat} (hn : 0 < n) :
    laid groups n = groups (n - 1) ++ laid (pushed groups) n := by
  obtain ⟨n, rfl⟩ := Nat.exists_eq_succ_of_ne_zero hn.ne'
  rw [laid_succ (pushed groups)]
  exact congrArg (groups n ++ ·) (List.append_nil _).symm

/-- Adding bytes makes a further piece of the live file. -/
theorem Filled.yields_append (h : log.Filled groups tree) (bytes : ByteArray) :
    ∃ later, Host.Yields (Host.alter fun tree ↦ .ok (tree.append log.file bytes)) tree () later ∧
      (∀ written, { log with written }.Filled (extended groups bytes) later) ∧
      FileTree.ChangesOnly (InRow log.live log.keep tree) tree later := by
  obtain ⟨files, hopen, hlive, hfilled⟩ := h.files
  obtain ⟨content, hcontent⟩ := Option.isSome_iff_exists.1 hlive
  obtain ⟨later, happend, hbecomes⟩ := hopen.series.yields_append hopen.keeps hcontent bytes
  rw [← hopen.file] at happend
  refine ⟨later, happend, fun written ↦ ⟨_, hopen.of_becomes ⟨rfl, rfl, rfl, rfl⟩ hbecomes, ?_, ?_⟩,
    hbecomes.only⟩
  · simp
  · intro n hn
    cases n with
    | zero =>
      have hpieces := hfilled 0 hopen.keeps
      rw [hcontent, Option.getD_some] at hpieces
      rw [Function.update_self, Option.getD_some, extended, joined_append, ← hpieces]
      exact congrArg (content ++ ·) ByteArray.append_empty.symm
    | succ n =>
      rw [Function.update_of_ne (Nat.succ_ne_zero n)]
      exact hfilled (n + 1) hn

/-- Rotating drops the pieces of the oldest file and begins a live file without any. -/
theorem Filled.yields_rotate (h : log.Filled groups tree) :
    ∃ after later, Host.Yields log.rotate tree after later ∧ log.Continues after ∧
      after.Filled (pushed groups) later ∧
      FileTree.ChangesOnly (InRow log.live log.keep tree) tree later := by
  obtain ⟨files, hopen, hlive, hfilled⟩ := h.files
  obtain ⟨content, hcontent⟩ := Option.isSome_iff_exists.1 hlive
  obtain ⟨after, later, hrotate, hafter, hbecomes⟩ := Rotating.yields_rotate hopen hcontent
  refine ⟨after, later, hrotate, hafter, ⟨_, hopen.of_becomes hafter hbecomes, rfl, ?_⟩, hbecomes.only⟩
  intro n hn
  cases n with
  | zero => rfl
  | succ n => exact hfilled n (Nat.lt_of_succ_lt (hafter.keep ▸ hn))

/-- A write puts its text at the end of the log. Only what the oldest file held may have to go. -/
theorem Filled.yields_write (h : log.Filled groups tree) (bytes : ByteArray) :
    ∃ after later groups' dropped, Host.Yields (log.write bytes) tree after later ∧ log.Continues after ∧
      after.Filled groups' later ∧ FileTree.ChangesOnly (InRow log.live log.keep tree) tree later ∧
      laid groups log.keep ++ [bytes] = dropped ++ laid groups' log.keep ∧
      (groups' 0).getLast? = some bytes := by
  have hkeeps : 0 < log.keep := by
    obtain ⟨files, hopen, -⟩ := h.files
    exact hopen.keeps
  unfold write
  by_cases hfull : log.isFull bytes
  · obtain ⟨middle, rested, hrotate, hmiddle, hpushed, honly⟩ := h.yields_rotate
    obtain ⟨later, happend, hextended, honly'⟩ := hpushed.yields_append bytes
    simp only [if_pos hfull]
    refine ⟨_, later, _, groups (log.keep - 1), hrotate.bind (happend.bind (.pure _ later)), ?_,
      hextended _, hmiddle.changesOnly honly honly', ?_, ?_⟩
    · exact ⟨hmiddle.live, hmiddle.keep, hmiddle.limit, hmiddle.file⟩
    · rw [laid_extended _ _ hkeeps, laid_pushed groups hkeeps, List.append_assoc]
    · rfl
  · obtain ⟨later, happend, hextended, honly⟩ := h.yields_append bytes
    simp only [if_neg hfull]
    refine ⟨_, later, _, [], (Host.Yields.pure log tree).bind (happend.bind (.pure _ later)),
      ⟨rfl, rfl, rfl, rfl⟩, hextended _, honly, ?_, ?_⟩
    · rw [laid_extended _ _ hkeeps, List.nil_append]
    · exact List.getLast?_concat

/-- Writing texts one after the other. -/
theorem Filled.yields_writes (h : log.Filled groups tree) (texts : List ByteArray) :
    ∃ after later groups' dropped, Host.Yields (texts.foldlM write log) tree after later ∧
      log.Continues after ∧ after.Filled groups' later ∧
      FileTree.ChangesOnly (InRow log.live log.keep tree) tree later ∧
      laid groups log.keep ++ texts = dropped ++ laid groups' log.keep ∧
      ∀ last ∈ texts.getLast?, (groups' 0).getLast? = some last := by
  -- From the right: the last text is the one that has to be at the end.
  induction texts using List.reverseRecOn with
  | nil =>
    exact ⟨log, tree, groups, [], .pure log tree, .refl log, h, .refl _ tree, by simp, by simp⟩
  | append_singleton texts text ih =>
    obtain ⟨middle, rested, between, dropped, hwrites, hmiddle, hbetween, honly, hlaid, -⟩ := ih
    obtain ⟨after, later, groups', more, hwrite, hafter, hfilled, honly', hlaid', hlast⟩ :=
      hbetween.yields_write text
    rw [hmiddle.keep] at hlaid'
    refine ⟨after, later, groups', dropped ++ more, ?_, hmiddle.trans hafter, hfilled,
      hmiddle.changesOnly honly honly', ?_, ?_⟩
    · rw [List.foldlM_append]
      exact hwrites.bind (hwrite.bind (.pure after later))
    · rw [← List.append_assoc, hlaid, List.append_assoc, hlaid', List.append_assoc]
    · simpa using hlast

/-! ## From the opening on -/

/-- The directory is there, and the first files of the log have names that fit and are no directories. -/
structure Housed (directory : Path) (name : String) (keep : Nat) (tree : FileTree) (location : Location) :
    Prop where
  way : tree.follow (tree.start directory) (Path.stretches directory.chars) = .ok location
  dir : tree.DirAt location
  text : ∀ n < keep, FileTree.textFault? (directory.join ⟨fileName name n⟩) = none
  short : ∀ n < keep, FileTree.byteCount (fileName name n) ≤ FileTree.longestName
  free : ∀ n < keep, ¬ tree.DirAt (location ++ [fileName name n])

/-- What the n-th file of a log in that directory holds, if it is there. -/
def held (name : String) (location : Location) (tree : FileTree) (n : Nat) : List ByteArray :=
  (tree.fileAt? (location ++ [fileName name n])).toList

variable {directory : Path} {name : String} {keep : Nat} {location : Location}

namespace Housed

/-- Every file of the log lies in its directory. -/
theorem goal_filePath (h : Housed directory name keep tree location) (n : Nat) :
    tree.goal (filePath (liveOf directory name) n) = location ++ [fileName name n] := by
  have hgoal : tree.goal directory = location := FileTree.foldl_walk_of_follow h.way
  rw [filePath_liveOf, FileTree.goal_join tree directory (isEntryName_fileName name n), hgoal]

theorem series (h : Housed directory name keep tree location) :
    Series (liveOf directory name) keep (fun n ↦ tree.fileAt? (location ++ [fileName name n])) tree := by
  refine ⟨fun n hn ↦ ?_, fun m _ n _ hgoal ↦ ?_, fun n hn ↦ ?_⟩
  · rw [filePath_liveOf]
    exact FileTree.namesEntry_join (isEntryName_fileName name n) h.way h.dir (h.text n hn) (h.short n hn)
  · rw [h.goal_filePath, h.goal_filePath, List.append_cancel_left_eq, List.cons.injEq] at hgoal
    exact fileName_injective name hgoal.1
  · rw [h.goal_filePath, FileTree.map_file_fileAt? (h.free n hn)]

theorem yields_makeDirs (h : Housed directory name keep tree location) (hkeep : 0 < keep) :
    Host.Yields (Host.makeDirs directory) tree () tree := by
  by_cases hshown : directory.chars = []
  · exact .makeDirs (.inl hshown) (.inl hshown)
  · have hlocate : tree.locate directory = .ok location := by
      unfold FileTree.locate
      rw [FileTree.textFault?_of_join hshown (isEntryName_fileName name 0).noSlash (h.text 0 hkeep)]
      exact h.way
    obtain ⟨entries, hentries⟩ := h.dir
    refine .makeDirs (.inr (FileTree.makeDir_of_locate hlocate)) (.inr ?_)
    unfold FileTree.isDir
    rw [hlocate]
    simp [hentries, FileNode.isDir]

/-- A log opens on the files that are there. -/
theorem yields_openLog (limit : Nat) (h : Housed directory name (max keep 1) tree location) :
    ∃ log later, Host.Yields (openLog directory name keep limit) tree log later ∧
      log.live = liveOf directory name ∧ log.keep = max keep 1 ∧
      log.Filled (held name location tree) later ∧
      FileTree.ChangesOnly (InRow log.live log.keep tree) tree later := by
  have hkeep : 0 < max keep 1 := Nat.lt_of_lt_of_le Nat.one_pos (Nat.le_max_right keep 1)
  obtain ⟨later, hopen, hbecomes⟩ := h.series.yields_open hkeep true
  let log : Rotating :=
    { live := liveOf directory name, file := tree.goal (liveOf directory name), keep := max keep 1, limit,
      written := sizeAt (tree.goal (liveOf directory name)) later }
  refine ⟨log, later, ?_, rfl, rfl, ⟨_, ⟨hkeep, hbecomes.series, ?_⟩, by simp, fun n hn ↦ ?_⟩, hbecomes.only⟩
  · unfold openLog
    exact (h.yields_makeDirs hkeep).bind (hopen.bind ((Host.Yields.look _ later).bind (.pure log later)))
  · exact (hbecomes.only.toKeepsDirs.goal _).symm
  · rw [held, joined_toList]
    cases n with
    | zero => simp
    | succ n => rw [Function.update_of_ne (Nat.succ_ne_zero n)]

end Housed

/-- After any texts have been written to a log, its files hold the latest of the pieces that came together
since the oldest of them, each whole and in order, and the last text stands at the end of the live file.
Writing always goes well, and nothing else in the directory is touched. -/
theorem latest_kept {host : Host} (limit : Nat) (texts : List ByteArray)
    (h : Housed directory name (max keep 1) host.tree location) (hquiet : host.Undisturbed) :
    ∃ log after groups dropped,
      (openLog directory name keep limit >>= fun log ↦ texts.foldlM write log) host = (.ok log, after) ∧
      (∀ n < max keep 1, joined (held name location after.tree n) = joined (groups n)) ∧
      laid (held name location host.tree) (max keep 1) ++ texts = dropped ++ laid groups (max keep 1) ∧
      joined (laid (held name location host.tree) (max keep 1)) ++ joined texts =
        joined dropped ++ joined (laid (held name location after.tree) (max keep 1)) ∧
      (∀ last ∈ texts.getLast?, (groups 0).getLast? = some last) ∧
      FileTree.ChangesOnly (fun place ↦ ∃ n < max keep 1, place = location ++ [fileName name n])
        host.tree after.tree := by
  obtain ⟨opened, first, hopen, hlive, hkeep, hopened, hfirst⟩ := h.yields_openLog limit
  obtain ⟨log, later, groups, dropped, hwrites, hlog, hfilled, honly, hlaid, hlast⟩ :=
    hopened.yields_writes texts
  have hboth : Host.Yields (openLog directory name keep limit >>= fun log ↦ texts.foldlM write log) host.tree
      log later := hopen.bind hwrites
  obtain ⟨after, hrun, htree, -⟩ := hboth host (.of_undisturbed hquiet)
  have hgoal (n : Nat) : later.goal (filePath (liveOf directory name) n) = location ++ [fileName name n] := by
    rw [honly.toKeepsDirs.goal, hfirst.toKeepsDirs.goal, h.goal_filePath]
  have hheld : ∀ n < max keep 1, joined (held name location after.tree n) = joined (groups n) := by
    intro n hn
    obtain ⟨files, hlater, -, hfiles⟩ := hfilled.files
    have hn' : n < log.keep := by rwa [hlog.keep, hkeep]
    rw [held, joined_toList, htree, ← hgoal, ← hlive, ← hlog.live, hlater.series.fileAt? hn', hfiles n hn']
  rw [hkeep] at hlaid
  refine ⟨log, after, groups, dropped, hrun, hheld, hlaid, ?_, hlast, ?_⟩
  · rw [joined_laid hheld, ← joined_append, ← joined_append, hlaid]
  · rw [htree]
    refine ((Continues.refl opened).changesOnly hfirst honly).mono ?_
    rintro _ ⟨n, hn, rfl⟩
    exact ⟨n, hkeep ▸ hn, by rw [hlive, h.goal_filePath]⟩

/-- A host with two files of a log, and a gap between them. -/
def gapped : Host where
  tree.root := .dir [("var".toList, .dir [("log".toList, .dir [
    ("fleet.log".toList, .file "new\n".toUTF8), ("fleet.log.2".toList, .file "old\n".toUTF8)])])]

theorem gapped_latest_kept :
    Housed (.ofString "/var/log/") "fleet" (max 3 1) gapped.tree ["var".toList, "log".toList] ∧
      gapped.Undisturbed ∧
      ∃ log after groups dropped,
        (openLog (.ofString "/var/log/") "fleet" 3 8 >>= fun log ↦
          ["longer\n".toUTF8, "last\n".toUTF8].foldlM write log) gapped = (.ok log, after) ∧
        laid (held "fleet" ["var".toList, "log".toList] gapped.tree) (max 3 1) ++
          ["longer\n".toUTF8, "last\n".toUTF8] = dropped ++ laid groups (max 3 1) ∧
        (groups 0).getLast? = some "last\n".toUTF8 := by
  have hhoused : Housed (.ofString "/var/log/") "fleet" (max 3 1) gapped.tree ["var".toList, "log".toList] := by
    refine ⟨by decide, ⟨_, rfl⟩, by decide, by decide, fun n hn ↦ ?_⟩
    rintro ⟨entries, hentries⟩
    match n, hn with
    | 0, _ | 1, _ | 2, _ => cases hentries
  have hquiet : gapped.Undisturbed := fun _ _ ↦ rfl
  obtain ⟨log, after, groups, dropped, hrun, -, hlaid, -, hlast, -⟩ :=
    latest_kept 8 ["longer\n".toUTF8, "last\n".toUTF8] hhoused hquiet
  exact ⟨hhoused, hquiet, log, after, groups, dropped, hrun, hlaid, hlast _ rfl⟩

/-- A name that is as long as the name of a live file can be. -/
def lengthy : String := String.ofList (List.replicate 250 'a')

theorem stem_replicate (n : Nat) : stem (String.ofList (List.replicate n 'a')) = List.replicate n 'a' := by
  have hstays : staysInStem 'a' = true := by decide
  rw [stem, String.toList_ofList, List.map_replicate, hstays, if_pos rfl]

/-- Writing fails where the name of an older file would be too long, with neither file there at first. -/
theorem lengthy_write_fails :
    (∀ n < 2, ({} : FileTree).at? [fileName lengthy n] = none) ∧
      ((openLog (.ofString ".") lengthy 2 3) { tree := {} }).1.isOk = true ∧
      ((openLog (.ofString ".") lengthy 2 3 >>= fun log ↦
        ["abc".toUTF8, "de".toUTF8].foldlM write log) { tree := {} }).1 = .error .nameTooLong := by
  have hstem : stem lengthy = List.replicate 250 'a' := stem_replicate 250
  refine ⟨fun _ _ ↦ rfl, ?_⟩
  unfold openLog liveOf
  rw [hstem]
  constructor <;> decide +kernel

end FleetAgent.Log.Rotating
