import FleetAgent.Log.Rotation
import FleetAgent.Proofs.DirectoryEntries
import FleetAgent.Proofs.QuietHost
import Mathlib.Logic.Function.Basic

/-!
# The files of a log

The files of a log stand in a row, the live one first and every other one a generation older than the one
before it. A `Series` says what each place of the row holds, and every call that a log makes changes the
places of the row alone.
-/

namespace FleetAgent.Log

variable {m n : Nat}

def fileName (name : String) : Nat → Name
  | 0 => stem name ++ ".log".toList
  | n + 1 => stem name ++ ".log".toList ++ '.' :: Nat.toDigits 10 (n + 1)

theorem mem_fileName {name : String} {n : Nat} {c : Char} (h : c ∈ fileName name n) : staysInStem c ∨ c = '.' := by
  have hstem (hc : c ∈ stem name) : staysInStem c := by
    obtain ⟨given, -, rfl⟩ := List.mem_map.1 hc
    split
    · next hstays => exact hstays
    · rfl
  have hlive (hc : c ∈ stem name ++ ".log".toList) : staysInStem c ∨ c = '.' := by
    rcases List.mem_append.1 hc with hc | hc
    · exact .inl (hstem hc)
    · have hending : c = '.' ∨ c = 'l' ∨ c = 'o' ∨ c = 'g' := by simpa using hc
      rcases hending with rfl | rfl | rfl | rfl <;> decide
  cases n with
  | zero => exact hlive h
  | succ n =>
    rcases List.mem_append.1 h with hc | hc
    · exact hlive hc
    · rcases List.mem_cons.1 hc with hdot | hdigit
      · exact .inr hdot
      · have hc := Nat.isDigit_of_mem_toDigits (by decide) (by decide) hdigit
        simp [staysInStem, Char.isAlphanum, hc]

/-- The files of a log have names that entries can have. -/
theorem isEntryName_fileName (name : String) (n : Nat) : Path.IsEntryName (fileName name n) := by
  have hletter : 'g' ∈ fileName name n := by
    cases n <;> simp [fileName]
  refine ⟨fun hempty ↦ by simp [hempty] at hletter, fun hslash ↦ ?_, ?_⟩
  · exact absurd (mem_fileName hslash) (by decide)
  · rintro (hdot | hdots)
    · simp [hdot] at hletter
    · simp [hdots] at hletter

theorem zero_not_mem_fileName (name : String) (n : Nat) : '\x00' ∉ fileName name n :=
  fun hzero ↦ absurd (mem_fileName hzero) (by decide)

/-- A larger number has no fewer digits. -/
theorem length_toDigits_le (h : m ≤ n) : (Nat.toDigits 10 m).length ≤ (Nat.toDigits 10 n).length := by
  have hn := (Nat.length_toDigits_le_iff (by decide) Nat.length_toDigits_pos).1 (Nat.le_refl (Nat.toDigits 10 n).length)
  exact (Nat.length_toDigits_le_iff (by decide) Nat.length_toDigits_pos).2 (h.trans_lt hn)

/-- The names grow longer from the live file on. -/
theorem byteCount_fileName_le (name : String) (h : m ≤ n) :
    FileTree.byteCount (fileName name m) ≤ FileTree.byteCount (fileName name n) := by
  have hdigits (k : Nat) : FileTree.byteCount (Nat.toDigits 10 k) = (Nat.toDigits 10 k).length :=
    FileTree.byteCount_of_digits fun c hc ↦ Nat.isDigit_of_mem_toDigits (by decide) (by decide) hc
  have hlive (more : List Char) : FileTree.byteCount (stem name ++ ".log".toList ++ more) =
      FileTree.byteCount (stem name ++ ".log".toList) + FileTree.byteCount more := FileTree.byteCount_append _ more
  match m, n with
  | 0, 0 => exact Nat.le_refl _
  | 0, n + 1 =>
    rw [fileName, fileName, hlive]
    exact Nat.le_add_right _ _
  | m + 1, n + 1 =>
    rw [fileName, fileName, hlive, hlive, FileTree.byteCount_cons, FileTree.byteCount_cons, hdigits, hdigits]
    exact Nat.add_le_add_left (Nat.add_le_add_left (length_toDigits_le h) _) _

/-- No two files of a log have the same name. -/
theorem fileName_injective (name : String) : Function.Injective (fileName name) := by
  intro m n h
  cases m with
  | zero =>
    cases n with
    | zero => rfl
    | succ n => simp [fileName] at h
  | succ m =>
    cases n with
    | zero => simp [fileName] at h
    | succ n =>
      simp only [fileName, List.append_cancel_left_eq, List.cons.injEq, true_and] at h
      rw [← Nat.ofDigitChars_ten_toDigits (n := m + 1), h, Nat.ofDigitChars_ten_toDigits]

namespace Rotating

theorem yields_dropIfThere_of_removed {path : Path} {tree next : FileTree} (h : tree.remove path = .ok next) :
    Host.Yields (dropIfThere path) tree () next :=
  (Host.Yields.alter h).outcome.bind (.pure () next)

theorem yields_dropIfThere_of_missing {path : Path} {tree : FileTree} (h : tree.remove path = .error .notFound) :
    Host.Yields (dropIfThere path) tree () tree := by
  refine (Host.Fails.alter h).outcome.bind ?_
  exact .pure () tree

/-- Only a missing file is no failure to drop it. -/
theorem fails_dropIfThere {path : Path} {tree : FileTree} {fault : FileError}
    (h : tree.remove path = .error fault) (hfault : fault ≠ .notFound) :
    Host.Fails (dropIfThere path) tree fault tree := by
  refine .after ?_ (Host.Fails.alter h).outcome
  cases fault with
  | notFound => exact absurd rfl hfault
  | _ => exact .throw _ tree

/-- The path of the n-th file of the log with that live file. -/
def filePath (live : Path) : Nat → Path
  | 0 => live
  | n + 1 => olderThan live (n + 1)

theorem filePath_liveOf (directory : Path) (name : String) (n : Nat) :
    filePath (liveOf directory name) n = directory.join ⟨fileName name n⟩ := by
  cases n with
  | zero => rfl
  | succ n =>
    have hlive := Path.isAbsolute_of_noSlash (isEntryName_fileName name 0).noSlash
    have hlater := Path.isAbsolute_of_noSlash (isEntryName_fileName name (n + 1)).noSlash
    have hpath : filePath (liveOf directory name) (n + 1) =
        ⟨(directory.join ⟨fileName name 0⟩).chars ++ '.' :: Nat.toDigits 10 (n + 1)⟩ := rfl
    rw [hpath, Path.join, Path.join, hlive, hlater, if_neg Bool.false_ne_true, if_neg Bool.false_ne_true]
    split <;> simp [fileName]

/-! ## A row of files -/

variable {live : Path} {keep : Nat} {files files' : Nat → Option ByteArray} {tree middle later : FileTree}
  {content : ByteArray}

/-- The first files of the row hold what is said, each at a place of its own. -/
structure Series (live : Path) (keep : Nat) (files : Nat → Option ByteArray) (tree : FileTree) : Prop where
  names : ∀ n < keep, tree.NamesEntry (filePath live n)
  apart : ∀ m < keep, ∀ n < keep, tree.goal (filePath live m) = tree.goal (filePath live n) → m = n
  holds : ∀ n < keep, tree.at? (tree.goal (filePath live n)) = (files n).map .file

/-- The location is a place in the row. -/
def InRow (live : Path) (keep : Nat) (tree : FileTree) (location : Location) : Prop :=
  ∃ n < keep, location = tree.goal (filePath live n)

/-- The row holds what is said in the later tree, and there is no other change. -/
structure Becomes (live : Path) (keep : Nat) (files : Nat → Option ByteArray) (tree later : FileTree) :
    Prop where
  series : Series live keep files later
  only : FileTree.ChangesOnly (InRow live keep tree) tree later

theorem Becomes.trans (h : Becomes live keep files tree middle) (h' : Becomes live keep files' middle later) :
    Becomes live keep files' tree later := by
  refine ⟨h'.series, h.only.trans (h'.only.mono ?_)⟩
  rintro _ ⟨n, hn, rfl⟩
  exact ⟨n, hn, h.only.toKeepsDirs.goal _⟩

namespace Series

theorem congr (h : Series live keep files tree) (hfiles : ∀ n < keep, files n = files' n) :
    Series live keep files' tree :=
  ⟨h.names, h.apart, fun n hn ↦ hfiles n hn ▸ h.holds n hn⟩

theorem becomes (h : Series live keep files tree) : Becomes live keep files tree tree := ⟨h, .refl _ tree⟩

theorem holds_of_some (h : Series live keep files tree) (hn : n < keep) (hcontent : files n = some content) :
    tree.Holds (filePath live n) content :=
  ⟨h.names n hn, by rw [h.holds n hn, hcontent]; rfl⟩

theorem at?_of_none (h : Series live keep files tree) (hn : n < keep) (hnone : files n = none) :
    tree.at? (tree.goal (filePath live n)) = none := by
  rw [h.holds n hn, hnone]
  rfl

theorem fileAt? (h : Series live keep files tree) (hn : n < keep) :
    tree.fileAt? (tree.goal (filePath live n)) = files n := by
  unfold FileTree.fileAt?
  rw [h.holds n hn]
  cases files n <;> rfl

theorem exists? (h : Series live keep files tree) (hn : n < keep) :
    tree.exists? (filePath live n) = (files n).isSome := by
  rw [(h.names n hn).exists?, h.holds n hn, Option.isSome_map]

theorem not_dirAt (h : Series live keep files tree) (hn : n < keep) :
    ¬ tree.DirAt (tree.goal (filePath live n)) := by
  cases hcontent : files n with
  | none => exact FileTree.not_dirAt_of_none (h.at?_of_none hn hcontent)
  | some content => exact (h.holds_of_some hn hcontent).not_dirAt

/-- What is changed in the row is the places that hold something else afterwards. -/
theorem change {changed : Location → Prop} (h : Series live keep files tree)
    (hchanges : FileTree.ChangesOnly changed tree later)
    (hrow : ∀ location, changed location → InRow live keep tree location)
    (hholds : ∀ n < keep, later.at? (tree.goal (filePath live n)) = (files' n).map .file ∨
      files' n = files n ∧ ¬ changed (tree.goal (filePath live n))) :
    Becomes live keep files' tree later := by
  have hgoal := hchanges.toKeepsDirs.goal
  refine ⟨⟨fun n hn ↦ hchanges.toKeepsDirs.namesEntry (h.names n hn), ?_, ?_⟩, hchanges.mono hrow⟩
  · simp only [hgoal]
    exact h.apart
  · intro n hn
    rw [hgoal]
    rcases hholds n hn with hput | ⟨hsame, hkept⟩
    · exact hput
    · rw [hchanges.same _ hkept (h.not_dirAt hn), h.holds n hn, hsame]

/-- A change of one place. -/
theorem put (h : Series live keep files tree) (hn : n < keep) {content? : Option ByteArray}
    (hchanges : FileTree.ChangesOnly (· = tree.goal (filePath live n)) tree later)
    (hput : later.at? (tree.goal (filePath live n)) = content?.map .file) :
    Becomes live keep (Function.update files n content?) tree later := by
  refine h.change hchanges (fun location hlocation ↦ ⟨n, hn, hlocation⟩) fun k hk ↦ ?_
  by_cases hsame : k = n
  · subst hsame
    exact .inl (by rw [hput, Function.update_self])
  · exact .inr ⟨Function.update_of_ne hsame _ _, fun hgoal ↦ hsame (h.apart k hk n hn hgoal)⟩

/-- The file is opened for writing, and made when it is missing. -/
theorem yields_open (h : Series live keep files tree) (hkeep : 0 < keep) (stays : Bool) :
    ∃ later, Host.Yields (Host.call (·.openToWrite stays live)) tree (tree.goal live) later ∧
      Becomes live keep
        (Function.update files 0 (some (if stays then (files 0).getD .empty else .empty))) tree later := by
  obtain ⟨later, hopen, hholds, hchanges⟩ :=
    FileTree.openToWrite_file (h.names 0 hkeep) (h.not_dirAt hkeep) stays
  refine ⟨later, .call hopen, h.put hkeep hchanges ?_⟩
  rw [h.fileAt? hkeep] at hholds
  rw [← hchanges.toKeepsDirs.goal, hholds.file]
  rfl

/-- Bytes can be added to the live file of a series, and the other files stay as they are. -/
theorem yields_append (h : Series live keep files tree) (hkeep : 0 < keep) (hlive : files 0 = some content)
    (bytes : ByteArray) :
    ∃ later, Host.Yields (Host.alter fun tree' ↦ .ok (tree'.append (tree.goal live) bytes)) tree () later ∧
      Becomes live keep (Function.update files 0 (some (content ++ bytes))) tree later := by
  obtain ⟨hholds, hchanges⟩ := (h.holds_of_some hkeep hlive).append bytes
  have hput := hholds.file
  rw [hchanges.toKeepsDirs.goal] at hput
  exact ⟨_, .alter rfl, h.put hkeep hchanges hput⟩

/-- The file is dropped, if it is there. -/
theorem yields_dropIfThere (h : Series live keep files tree) (hn : n < keep) :
    ∃ later, Host.Yields (dropIfThere (filePath live n)) tree () later ∧
      Becomes live keep (Function.update files n none) tree later := by
  cases hcontent : files n with
  | none =>
    refine ⟨tree, yields_dropIfThere_of_missing ?_, ?_⟩
    · exact FileTree.remove_missing (h.names n hn) (h.at?_of_none hn hcontent)
    · rw [← hcontent, Function.update_eq_self]
      exact h.becomes
  | some content =>
    obtain ⟨later, hremove, hgone, hchanges⟩ := (h.holds_of_some hn hcontent).remove
    exact ⟨later, yields_dropIfThere_of_removed hremove, h.put hn hchanges hgone⟩

/-- A file is moved to another place of the row. -/
theorem yields_rename (h : Series live keep files tree) (hm : m < keep) (hn : n < keep) (hne : m ≠ n)
    (hcontent : files m = some content) :
    ∃ later, Host.Yields (Host.alter (·.rename (filePath live m) (filePath live n))) tree () later ∧
      Becomes live keep (Function.update (Function.update files m none) n (some content)) tree later := by
  have hapart : tree.goal (filePath live m) ≠ tree.goal (filePath live n) :=
    fun hgoal ↦ hne (h.apart m hm n hn hgoal)
  obtain ⟨later, hrename, hholds, hchanges, hgone⟩ :=
    (h.holds_of_some hm hcontent).rename (h.names n hn) (h.not_dirAt hn)
  have hput := hholds.file
  rw [hchanges.toKeepsDirs.goal] at hput
  refine ⟨later, .alter hrename, h.change hchanges ?_ fun k hk ↦ ?_⟩
  · rintro location (hsource | htarget)
    · exact ⟨m, hm, hsource⟩
    · exact ⟨n, hn, htarget⟩
  · by_cases htarget : k = n
    · subst htarget
      exact .inl (by rw [hput, Function.update_self]; rfl)
    · rw [Function.update_of_ne htarget]
      by_cases hsource : k = m
      · subst hsource
        exact .inl (by rw [hgone hapart, Function.update_self]; rfl)
      · rw [Function.update_of_ne hsource]
        refine .inr ⟨rfl, ?_⟩
        rintro (hgoal | hgoal)
        · exact hsource (h.apart k hk m hm hgoal)
        · exact htarget (h.apart k hk n hn hgoal)

end Series

end Rotating

end FleetAgent.Log
