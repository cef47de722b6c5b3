import FleetAgent.Proofs.FailedRotation
import FleetAgent.Proofs.LogHistory
import FleetAgent.Proofs.TargetAlone

/-!
# How long the files of a log grow

A log counts what its live file has taken, and moves on to a new one when the next text would make it longer
than the limit. So no file is longer than that, except for one that holds a single long text and for those
that were there at the opening. Whatever has the name of an older file that the log does not keep stays as
it is.
-/

namespace FleetAgent.Log.Rotating

variable {log after : Rotating} {directory : Path} {name : String} {tree middle later : FileTree}
  {host : Host} {text : ByteArray}

def contentAt? (log : Rotating) (tree : FileTree) (n : Nat) : Option ByteArray :=
  tree.fileAt? (tree.goal (filePath log.live n))

theorem Continues.contentAt? (h : log.Continues after) : after.contentAt? = log.contentAt? := by
  funext tree n
  rw [Rotating.contentAt?, Rotating.contentAt?, h.live]

/-- The live file holds something, and would be longer than the limit with the text. -/
def Overflows (log : Rotating) (tree : FileTree) (text : ByteArray) : Prop :=
  ∃ content, log.contentAt? tree 0 = some content ∧ 0 < content.size ∧ log.limit < content.size + text.size

/-- The text stands behind what the live file held, and the other files are as they were. -/
structure Grown (log : Rotating) (text : ByteArray) (tree later : FileTree) : Prop where
  live : ∃ content, log.contentAt? tree 0 = some content ∧ log.contentAt? later 0 = some (content ++ text)
  older : ∀ n, n + 1 < log.keep → log.contentAt? later (n + 1) = log.contentAt? tree (n + 1)

/-- Each file has moved on by one place, and a new live file holds the text. -/
structure MovedOn (log : Rotating) (text : ByteArray) (tree later : FileTree) : Prop where
  live : log.contentAt? later 0 = some text
  older : ∀ n, n + 1 < log.keep → log.contentAt? later (n + 1) = log.contentAt? tree n

/-- The log has its live file open and counts its size, and none of its places is taken by a directory. -/
structure Sized (log : Rotating) (tree : FileTree) : Prop where
  keeps : 0 < log.keep
  names : tree.NamesEntry log.live
  free : ∀ n < log.keep, ¬ tree.DirAt (tree.goal (filePath log.live n))
  file : log.file = tree.goal log.live
  size : ∃ content, log.contentAt? tree 0 = some content ∧ content.size = log.written

/-- How writing a text ends: it goes behind the live file while that has room, and otherwise into a new live
file, unless the name of the oldest file does not fit, and then nothing is changed. -/
inductive WriteEnds (log : Rotating) (text : ByteArray) (tree : FileTree) :
    Except FileError Rotating → FileTree → Prop where
  | grown {after : Rotating} {later : FileTree} (hroom : ¬ log.Overflows tree text)
    (hafter : log.Continues after) (hsized : after.Sized later) (hgrown : log.Grown text tree later)
    (honly : FileTree.ChangesOnly (InRow log.live log.keep tree) tree later) :
    WriteEnds log text tree (.ok after) later
  | movedOn {after : Rotating} {later : FileTree} (hfull : log.Overflows tree text)
    (hafter : log.Continues after) (hsized : after.Sized later) (hmoved : log.MovedOn text tree later)
    (honly : FileTree.ChangesOnly (InRow log.live log.keep tree) tree later) :
    WriteEnds log text tree (.ok after) later
  | refused {fault : FileError} (hfull : log.Overflows tree text)
    (hlong : ¬ tree.NamesEntry (filePath log.live (log.keep - 1))) :
    WriteEnds log text tree (.error fault) tree

def put (log : Rotating) (text : ByteArray) : HostM FileError Rotating := do
  Host.alter fun tree ↦ .ok (tree.append log.file text)
  return { log with written := log.written + text.size }

/-- A text goes behind the live file, which has been made anew if the text has no room in it. -/
theorem write_eq (log : Rotating) (text : ByteArray) :
    log.write text = if log.isFull text then log.rotate >>= fun log ↦ log.put text else log.put text := rfl

/-- What is put into the new live file is all that it holds. -/
theorem MovedOn.grown {renewed : Rotating} (h : log.MovedOn .empty tree middle) (hrenewed : log.Continues renewed)
    (hgrown : renewed.Grown text middle later) : log.MovedOn text tree later := by
  obtain ⟨⟨content, hcontent, hlive⟩, holder⟩ := hgrown
  rw [hrenewed.contentAt?] at hcontent hlive holder
  refine ⟨?_, fun n hn ↦ ?_⟩
  · obtain rfl := Option.some.inj (h.live.symm.trans hcontent)
    rw [hlive, ByteArray.empty_append]
  · rw [holder n (hrenewed.keep ▸ hn), h.older n hn]

/-- Different files of a log lie at different places. -/
theorem goal_filePath_inj (hlive : log.live = liveOf directory name) {m n : Nat}
    (h : tree.goal (filePath log.live m) = tree.goal (filePath log.live n)) : m = n := by
  rw [hlive, filePath_liveOf, filePath_liveOf, FileTree.goal_join tree directory (isEntryName_fileName name m),
    FileTree.goal_join tree directory (isEntryName_fileName name n), List.append_cancel_left_eq,
    List.cons.injEq] at h
  exact fileName_injective name h.1

/-- What is not among the first places of the row is not changed with them. -/
theorem not_inRow (hlive : log.live = liveOf directory name) {count n : Nat} (hn : count ≤ n) :
    ¬ InRow log.live count tree (tree.goal (filePath log.live n)) := by
  rintro ⟨m, hm, hgoal⟩
  have hmn := goal_filePath_inj hlive hgoal
  omega

namespace Sized

/-- The log notices what overflows, as it counts the size of its live file. -/
theorem overflows_iff (h : log.Sized tree) : log.Overflows tree text ↔ log.isFull text = true := by
  obtain ⟨content, hcontent, hsize⟩ := h.size
  rw [isFull, Bool.and_eq_true, decide_eq_true_eq, decide_eq_true_eq, ← hsize]
  constructor
  · rintro ⟨found, hfound, hshown, hover⟩
    obtain rfl := Option.some.inj (hcontent.symm.trans hfound)
    exact ⟨hshown, hover⟩
  · rintro ⟨hshown, hover⟩
    exact ⟨content, hcontent, hshown, hover⟩

/-- As many files of the row as have names that fit. -/
theorem series (h : log.Sized tree) (hlive : log.live = liveOf directory name) {count : Nat}
    (hcount : count ≤ log.keep) (hnames : ∀ n < count, tree.NamesEntry (filePath log.live n)) :
    Series log.live count (log.contentAt? tree) tree := by
  refine ⟨hnames, fun m _ n _ hgoal ↦ goal_filePath_inj hlive hgoal, fun n hn ↦ ?_⟩
  rw [contentAt?, FileTree.map_file_fileAt? (h.free n (Nat.lt_of_lt_of_le hn hcount))]

/-- A change of the first files leaves the log with its places, if the new live file is counted. -/
theorem of_becomes (h : log.Sized tree) (hlive : log.live = liveOf directory name) {count : Nat}
    {files : Nat → Option ByteArray} (hpos : 0 < count)
    (hbecomes : Becomes log.live count files tree later) (hafter : log.Continues after)
    (hsize : ∃ content, files 0 = some content ∧ content.size = after.written) :
    after.Sized later ∧ (∀ n < count, log.contentAt? later n = files n) ∧
      ∀ n, count ≤ n → log.contentAt? later n = log.contentAt? tree n := by
  have hgoal := hbecomes.only.toKeepsDirs.goal
  have hheld : ∀ n < count, log.contentAt? later n = files n := fun n hn ↦ hbecomes.series.fileAt? hn
  have hkept : ∀ n, count ≤ n → log.contentAt? later n = log.contentAt? tree n := by
    intro n hn
    rw [contentAt?, hgoal]
    exact hbecomes.only.keeps.files _ (not_inRow hlive hn)
  refine ⟨⟨?_, ?_, fun n hn ↦ ?_, ?_, ?_⟩, hheld, hkept⟩
  · rw [hafter.keep]
    exact h.keeps
  · rw [hafter.live]
    exact hbecomes.only.toKeepsDirs.namesEntry h.names
  · rw [hafter.live]
    rw [hafter.keep] at hn
    by_cases hfirst : n < count
    · exact hbecomes.series.not_dirAt hfirst
    · have hsame := hbecomes.only.same _ (not_inRow hlive (Nat.le_of_not_lt hfirst)) (h.free n hn)
      rw [hgoal, FileTree.DirAt, hsame]
      exact h.free n hn
  · rw [hafter.file, hafter.live, hgoal]
    exact h.file
  · obtain ⟨content, hcontent, hwritten⟩ := hsize
    refine ⟨content, ?_, hwritten⟩
    rw [contentAt?, hafter.live]
    exact (hheld 0 hpos).trans hcontent

/-- A text can be put behind the live file. -/
theorem yields_put (h : log.Sized tree) (hlive : log.live = liveOf directory name) (text : ByteArray) :
    ∃ later, Host.Yields (log.put text) tree { log with written := log.written + text.size } later ∧
      { log with written := log.written + text.size }.Sized later ∧ log.Grown text tree later ∧
      FileTree.ChangesOnly (InRow log.live log.keep tree) tree later := by
  obtain ⟨content, hcontent, hsize⟩ := h.size
  have hseries := h.series hlive (Nat.succ_le_of_lt h.keeps) fun n hn ↦ by
    obtain rfl := Nat.lt_one_iff.1 hn
    exact h.names
  obtain ⟨later, happend, hbecomes⟩ := hseries.yields_append Nat.one_pos hcontent text
  have hafter : log.Continues { log with written := log.written + text.size } := ⟨rfl, rfl, rfl, rfl⟩
  obtain ⟨hsized, hheld, hkept⟩ := h.of_becomes hlive Nat.one_pos hbecomes hafter
    ⟨content ++ text, Function.update_self .., by rw [ByteArray.size_append, hsize]⟩
  rw [← h.file] at happend
  refine ⟨later, happend.bind (.pure _ later), hsized,
    ⟨⟨content, hcontent, ?_⟩, fun n _ ↦ hkept (n + 1) (Nat.le_add_left 1 n)⟩, ?_⟩
  · rw [hheld 0 Nat.one_pos, Function.update_self]
  · refine hbecomes.only.mono ?_
    rintro _ ⟨n, hn, rfl⟩
    exact ⟨n, Nat.lt_of_lt_of_le hn (Nat.succ_le_of_lt h.keeps), rfl⟩

end Sized

/-- A rotation begins to count anew. -/
theorem written_of_rotate {rested : Host} (h : log.rotate host = (.ok after, rested)) : after.written = 0 := by
  by_cases hone : log.keep ≤ 1
  · rw [rotate_of_one hone] at h
    obtain ⟨file, opened, -, h⟩ := bind_eq_ok h
    rw [← Except.ok.inj (Prod.mk.inj h).1]
  · rw [rotate_of_more (show log.keep = log.keep - 2 + 2 by omega)] at h
    obtain ⟨_, dropped, -, h⟩ := bind_eq_ok h
    obtain ⟨_, shifted, -, h⟩ := bind_eq_ok h
    obtain ⟨_, moved, -, h⟩ := bind_eq_ok h
    obtain ⟨file, opened, -, h⟩ := bind_eq_ok h
    rw [← Except.ok.inj (Prod.mk.inj h).1]

namespace Sized

/-- Where all names fit each file moves on, and the new live file is empty. -/
theorem yields_rotate (h : log.Sized tree) (hlive : log.live = liveOf directory name)
    (hnames : ∀ n < log.keep, tree.NamesEntry (filePath log.live n)) :
    ∃ after later, Host.Yields log.rotate tree after later ∧ log.Continues after ∧ after.Sized later ∧
      log.MovedOn .empty tree later ∧ FileTree.ChangesOnly (InRow log.live log.keep tree) tree later := by
  obtain ⟨content, hcontent, -⟩ := h.size
  have hopen : log.Open (log.contentAt? tree) tree :=
    ⟨h.keeps, h.series hlive (Nat.le_refl _) hnames, h.file⟩
  obtain ⟨after, later, hrotate, hafter, hbecomes⟩ := Rotating.yields_rotate hopen hcontent
  have hwritten : after.written = 0 := by
    obtain ⟨rested, hrotated, -⟩ := hrotate { tree } (.of_undisturbed fun _ _ ↦ rfl)
    exact written_of_rotate hrotated
  obtain ⟨hsized, hheld, -⟩ := h.of_becomes hlive h.keeps hbecomes hafter ⟨.empty, rfl, hwritten.symm⟩
  exact ⟨after, later, hrotate, hafter, hsized, ⟨hheld 0 h.keeps, fun n hn ↦ hheld (n + 1) hn⟩, hbecomes.only⟩

/-- Where the name of some file does not fit, that of the oldest one does not, and it cannot be dropped. -/
theorem fails_rotate (h : log.Sized tree) (hlive : log.live = liveOf directory name)
    (hnames : ¬ ∀ n < log.keep, tree.NamesEntry (filePath log.live n)) :
    ¬ tree.NamesEntry (filePath log.live (log.keep - 1)) ∧ ∃ fault, Host.Fails log.rotate tree fault tree := by
  obtain ⟨n, hn⟩ := not_forall.1 hnames
  obtain ⟨hn, hmisfit⟩ := Classical.not_imp.1 hn
  have hlong : ¬ tree.NamesEntry (filePath log.live (log.keep - 1)) := by
    rw [hlive, filePath_liveOf] at hmisfit ⊢
    intro hfits
    exact hmisfit (hfits.join_of_le (isEntryName_fileName name _) (isEntryName_fileName name n)
      (zero_not_mem_fileName name n) (byteCount_fileName_le name (Nat.le_sub_one_of_lt hn)))
  have hmany : log.keep ≠ 1 := by
    intro hone
    rw [hone] at hlong
    exact hlong h.names
  have hkeep : log.keep = log.keep - 2 + 2 := by
    have := h.keeps
    omega
  refine ⟨hlong, fails_rotate_of_not_namesEntry ?_ hlive hkeep⟩
  have hlast : log.keep - 1 = log.keep - 2 + 1 := by omega
  rwa [rowPath, ← filePath_liveOf, ← hlive, ← hlast]

/-- A write does one of three things. -/
theorem write_ends (h : log.Sized host.tree) (hlive : log.live = liveOf directory name)
    (hquiet : host.Undisturbed) (text : ByteArray) :
    log.WriteEnds text host.tree (log.write text host).1 (log.write text host).2.tree ∧
      (log.write text host).2.Undisturbed := by
  have hhost := Host.RestsOn.of_undisturbed hquiet
  by_cases hfull : log.Overflows host.tree text
  · have hwrite : log.write text = log.rotate >>= fun log ↦ log.put text := by
      rw [write_eq, if_pos (h.overflows_iff.1 hfull)]
    rw [hwrite]
    by_cases hnames : ∀ n < log.keep, host.tree.NamesEntry (filePath log.live n)
    · obtain ⟨renewed, middle, hrotate, hrenewed, hmiddle, hmoved, honly⟩ := h.yields_rotate hlive hnames
      obtain ⟨later, hput, hsized, hgrown, honly'⟩ := hmiddle.yields_put (hrenewed.live.trans hlive) text
      have hboth : Host.Yields (log.rotate >>= fun log ↦ log.put text) host.tree _ later := hrotate.bind hput
      obtain ⟨rested, hdone, hrested⟩ := hboth host hhost
      rw [hdone, hrested.tree_eq]
      refine ⟨.movedOn hfull ⟨hrenewed.live, hrenewed.keep, hrenewed.limit, hrenewed.file⟩ hsized
        (hmoved.grown hrenewed hgrown) (hrenewed.changesOnly honly honly'), hrested.undisturbed⟩
    · obtain ⟨hlong, fault, hfails⟩ := h.fails_rotate hlive hnames
      have hstops : Host.Fails (log.rotate >>= fun log ↦ log.put text) host.tree fault host.tree := hfails.bind
      obtain ⟨rested, hdone, hrested⟩ := hstops host hhost
      rw [hdone, hrested.tree_eq]
      exact ⟨.refused hfull hlong, hrested.undisturbed⟩
  · have hwrite : log.write text = log.put text := by
      rw [write_eq, if_neg (mt h.overflows_iff.2 hfull)]
    rw [hwrite]
    obtain ⟨later, hput, hsized, hgrown, honly⟩ := h.yields_put hlive text
    obtain ⟨rested, hdone, hrested⟩ := hput host hhost
    rw [hdone, hrested.tree_eq]
    exact ⟨.grown hfull ⟨rfl, rfl, rfl, rfl⟩ hsized hgrown honly, hrested.undisturbed⟩

end Sized

/-! ## Write after write -/

/-- Writes one after the other, with nothing else happening in between, and the texts of those that went
well. The log goes on as it was after a write that fails. -/
inductive Writes (log : Rotating) (host : Host) : List ByteArray → Rotating → Host → Prop
  | none : Writes log host [] log host
  | written {texts : List ByteArray} {text : ByteArray} {middle after : Rotating} {between last : Host}
      (hbefore : Writes log host texts middle between)
      (hwrite : middle.write text between = (.ok after, last)) : Writes log host (texts ++ [text]) after last
  | failed {texts : List ByteArray} {text : ByteArray} {middle : Rotating} {between last : Host}
      {fault : FileError} (hbefore : Writes log host texts middle between)
      (hwrite : middle.write text between = (.error fault, last)) : Writes log host texts middle last

variable {last : Host} {texts : List ByteArray} {content : ByteArray}

/-- A content that a file of the log may have, when the log had these files at first and these texts were
written to it. -/
def Fits (log : Rotating) (tree : FileTree) (texts : List ByteArray) (content : ByteArray) : Prop :=
  content.size ≤ log.limit ∨ content ∈ texts ∨ ∃ n < log.keep, log.contentAt? tree n = some content

theorem Fits.concat (h : log.Fits tree texts content) (text : ByteArray) :
    log.Fits tree (texts ++ [text]) content :=
  h.imp_right fun h ↦ h.imp_left fun hmem ↦ List.mem_append_left [text] hmem

/-- What was there at first has become what there is now. -/
structure Follows (log : Rotating) (host : Host) (texts : List ByteArray) (after : Rotating) (last : Host) :
    Prop where
  same : log.Continues after
  sized : after.Sized last.tree
  undisturbed : last.Undisturbed
  only : FileTree.ChangesOnly (InRow log.live log.keep host.tree) host.tree last.tree
  fits : ∀ n < log.keep, ∀ content, log.contentAt? last.tree n = some content →
    log.Fits host.tree texts content

/-- What a text leaves in the files fits when what it finds there does. -/
theorem Grown.fits {middle : Rotating} (h : middle.Grown text tree later) (hroom : ¬ middle.Overflows tree text)
    (hlimit : middle.limit = log.limit) {first : FileTree}
    (hfits : ∀ n < middle.keep, ∀ content, middle.contentAt? tree n = some content → log.Fits first texts content) :
    ∀ n < middle.keep, ∀ content, middle.contentAt? later n = some content →
      log.Fits first (texts ++ [text]) content := by
  intro n hn content hcontent
  cases n with
  | zero =>
    obtain ⟨before, hbefore, hafter⟩ := h.live
    obtain rfl := Option.some.inj (hafter.symm.trans hcontent)
    rcases Nat.eq_zero_or_pos before.size with hempty | hshown
    · rw [ByteArray.size_eq_zero_iff.1 hempty, ByteArray.empty_append]
      exact .inr (.inl (List.mem_append_right _ (List.mem_singleton_self text)))
    · left
      rw [ByteArray.size_append, ← hlimit]
      exact Nat.le_of_not_lt fun hover ↦ hroom ⟨before, hbefore, hshown, hover⟩
  | succ n =>
    rw [h.older n hn] at hcontent
    exact (hfits (n + 1) hn content hcontent).concat text

/-- A new live file holds one text, and that fits whatever its length. -/
theorem MovedOn.fits {middle : Rotating} (h : middle.MovedOn text tree later) {first : FileTree}
    (hfits : ∀ n < middle.keep, ∀ content, middle.contentAt? tree n = some content → log.Fits first texts content) :
    ∀ n < middle.keep, ∀ content, middle.contentAt? later n = some content →
      log.Fits first (texts ++ [text]) content := by
  intro n hn content hcontent
  cases n with
  | zero =>
    obtain rfl := Option.some.inj (h.live.symm.trans hcontent)
    exact .inr (.inl (List.mem_append_right _ (List.mem_singleton_self text)))
  | succ n =>
    rw [h.older n hn] at hcontent
    exact (hfits n (Nat.lt_of_succ_lt hn) content hcontent).concat text

/-- Whatever the writes are, the log goes on with files that fit. -/
theorem Writes.follows (h : Writes log host texts after last) (hlive : log.live = liveOf directory name)
    (hsized : log.Sized host.tree) (hquiet : host.Undisturbed) : Follows log host texts after last := by
  induction h with
  | none =>
    exact ⟨.refl log, hsized, hquiet, .refl _ host.tree, fun n hn _ hcontent ↦ .inr (.inr ⟨n, hn, hcontent⟩)⟩
  | @written texts text middle after between last _ hwrite ih =>
    obtain ⟨hends, hlast⟩ := ih.sized.write_ends (ih.same.live.trans hlive) ih.undisturbed text
    rw [hwrite] at hends hlast
    have hfits := ih.fits
    rw [← ih.same.keep, ← ih.same.contentAt?] at hfits
    cases hends with
    | grown hroom hafter hnext hgrown honly =>
      refine ⟨ih.same.trans hafter, hnext, hlast, ih.same.changesOnly ih.only honly, ?_⟩
      rw [← ih.same.keep, ← ih.same.contentAt?]
      exact hgrown.fits hroom ih.same.limit hfits
    | movedOn hfull hafter hnext hmoved honly =>
      refine ⟨ih.same.trans hafter, hnext, hlast, ih.same.changesOnly ih.only honly, ?_⟩
      rw [← ih.same.keep, ← ih.same.contentAt?]
      exact hmoved.fits hfits
  | @failed texts text middle between last fault _ hwrite ih =>
    obtain ⟨hends, hlast⟩ := ih.sized.write_ends (ih.same.live.trans hlive) ih.undisturbed text
    rw [hwrite] at hends hlast
    generalize htree : last.tree = later at hends
    cases hends with
    | refused hfull hlong => exact ⟨ih.same, htree ▸ ih.sized, hlast, htree ▸ ih.only, htree ▸ ih.fits⟩

/-! ## From the opening on -/

variable {keep limit : Nat} {opened : Host}

/-- The log of that name as it is opened: its live file has been made if it was missing, and no file has
been changed. -/
structure Opens (directory : Path) (name : String) (keep limit : Nat) (host : Host) (log : Rotating)
    (opened : Host) : Prop where
  live : log.live = liveOf directory name
  keep : log.keep = max keep 1
  limit : log.limit = limit
  names : opened.tree.NamesEntry log.live
  file : log.file = opened.tree.goal log.live
  written : log.written = sizeAt log.file opened.tree
  content : log.contentAt? opened.tree 0 = some ((log.contentAt? host.tree 0).getD .empty)
  keeps : FileTree.Keeps (· = host.tree.goal log.live) host.tree opened.tree
  undisturbed : opened.Undisturbed

theorem opens_of_openLog (h : openLog directory name keep limit host = (.ok log, opened))
    (hquiet : host.Undisturbed) : Opens directory name keep limit host log opened := by
  obtain ⟨_, made, hmake, h⟩ := bind_eq_ok h
  obtain ⟨file, ready, hopen, h⟩ := bind_eq_ok h
  obtain ⟨written, seen, hlook, h⟩ := bind_eq_ok h
  obtain ⟨hwritten, rfl⟩ := Prod.mk.inj hlook
  obtain rfl := Except.ok.inj hwritten
  obtain ⟨hlog, rfl⟩ := Prod.mk.inj h
  obtain rfl := Except.ok.inj hlog
  have hmade : FileTree.Keeps (fun _ ↦ False) host.tree made.tree := by
    have hkeeps := (Host.throughout_makeDirs (fun _ ↦ False) directory host).ends
    rwa [hmake] at hkeeps
  have hcall := Host.call_eq_ok hopen
  obtain ⟨hnames, hfree, rfl⟩ := FileTree.openToWrite_eq_ok hcall
  obtain ⟨later, hopened, hholds, hchanges⟩ := FileTree.openToWrite_file hnames hfree true
  obtain ⟨-, rfl⟩ := Prod.mk.inj (Except.ok.inj (hopened.symm.trans hcall))
  have hgoal := hchanges.toKeepsDirs.goal
  have hlater : Host.Undisturbed ready := by
    have hfirst := Host.advances_makeDirs directory host
    rw [hmake] at hfirst
    have hsecond := Host.advances_call (·.openToWrite true (liveOf directory name)) made
    change Host.Advances made (openLive (liveOf directory name) made).2 at hsecond
    rw [hopen] at hsecond
    exact hsecond.undisturbed (hfirst.undisturbed hquiet)
  refine ⟨rfl, rfl, rfl, hholds.names, (hgoal _).symm, rfl, ?_, ?_, hlater⟩
  · have hread := FileTree.fileAt?_of_file hholds.file
    rw [if_pos rfl, hmade.toKeepsDirs.goal, hmade.files _ not_false] at hread
    exact hread
  · refine (hmade.mono nofun).trans (hchanges.keeps.mono fun location hlocation ↦ ?_)
    rw [hlocation, hmade.toKeepsDirs.goal]

theorem Opens.sized (h : Opens directory name keep limit host log opened)
    (hfree : ∀ n < log.keep, ¬ opened.tree.DirAt (opened.tree.goal (filePath log.live n))) :
    log.Sized opened.tree := by
  refine ⟨?_, h.names, hfree, h.file, _, h.content, ?_⟩
  · rw [h.keep]
    exact Nat.lt_of_lt_of_le Nat.one_pos (Nat.le_max_right keep 1)
  · have hfile := FileTree.at?_of_fileAt? h.content
    change opened.tree.at? (opened.tree.goal log.live) = _ at hfile
    rw [h.written, h.file, sizeAt, hfile]

/-- Opening a log leaves the older files as they are. -/
theorem Opens.contentAt?_succ (h : Opens directory name keep limit host log opened) (n : Nat) :
    log.contentAt? opened.tree (n + 1) = log.contentAt? host.tree (n + 1) := by
  rw [contentAt?, h.keeps.toKeepsDirs.goal]
  exact h.keeps.files _ fun hgoal ↦ absurd (goal_filePath_inj (m := n + 1) (n := 0) h.live hgoal) (Nat.succ_ne_zero n)

/-- What fits with the files of the open log fits with those that were there before. -/
theorem Opens.fits (h : Opens directory name keep limit host log opened)
    (hfits : log.Fits opened.tree texts content) : log.Fits host.tree texts content := by
  obtain hshort | hwritten | ⟨n, hn, hheld⟩ := hfits
  · exact .inl hshort
  · exact .inr (.inl hwritten)
  · cases n with
    | zero =>
      obtain rfl := Option.some.inj (h.content.symm.trans hheld)
      cases hbefore : log.contentAt? host.tree 0 with
      | none => exact .inl (Nat.zero_le log.limit)
      | some before => exact .inr (.inr ⟨0, hn, hbefore⟩)
    | succ n => exact .inr (.inr ⟨n + 1, hn, (h.contentAt?_succ n).symm.trans hheld⟩)

/-- The log knows the size of its live file. Each of its files is no longer than the limit, unless it holds
just one text that was written or what one of the files held before the opening; the places behind those that
are kept hold what they held then. A text goes into a new live file just when the old one holds something and
has no room for it. -/
theorem files_stay_short (hopen : openLog directory name keep limit host = (.ok log, opened))
    (hquiet : host.Undisturbed)
    (hfree : ∀ n < max keep 1, ¬ opened.tree.DirAt (opened.tree.goal (filePath log.live n)))
    (hwrites : Writes log opened texts after last) :
    (∃ content, after.contentAt? last.tree 0 = some content ∧ content.size = after.written) ∧
      (∀ n < max keep 1, ∀ content, after.contentAt? last.tree n = some content →
        content.size ≤ limit ∨ content ∈ texts ∨ ∃ m < max keep 1, log.contentAt? host.tree m = some content) ∧
      (∀ n, max keep 1 ≤ n → after.contentAt? last.tree n = log.contentAt? host.tree n) ∧
      after.live = liveOf directory name ∧ after.keep = max keep 1 ∧ after.limit = limit ∧
      ∀ text, after.WriteEnds text last.tree (after.write text last).1 (after.write text last).2.tree := by
  have hopens := opens_of_openLog hopen hquiet
  have hsized := hopens.sized (hopens.keep ▸ hfree)
  have hfollows := hwrites.follows hopens.live hsized hopens.undisturbed
  rw [hfollows.same.contentAt?]
  refine ⟨hfollows.same.contentAt? ▸ hfollows.sized.size, fun n hn content hcontent ↦ ?_, fun n hn ↦ ?_,
    hfollows.same.live.trans hopens.live, hfollows.same.keep.trans hopens.keep,
    hfollows.same.limit.trans hopens.limit, fun text ↦ ?_⟩
  · have hfits := hopens.fits (hfollows.fits n (hopens.keep ▸ hn) content hcontent)
    rwa [Fits, hopens.limit, hopens.keep] at hfits
  · obtain ⟨n, rfl⟩ : ∃ k, n = k + 1 := ⟨n - 1, by omega⟩
    rw [← hopens.contentAt?_succ, contentAt?, hfollows.only.toKeepsDirs.goal]
    exact hfollows.only.keeps.files _ (not_inRow hopens.live (hopens.keep ▸ hn))
  · exact (hfollows.sized.write_ends (hfollows.same.live.trans hopens.live) hfollows.undisturbed text).1

/-- A host with a live file that is too long already, and one with the name of a file that is not kept. -/
def crowded : Host where
  tree.root := .dir [("log".toList, .dir [("fleet.log".toList, .file "a long line
".toUTF8),
    ("fleet.log.3".toList, .file "not kept, however long
".toUTF8)])]

def crowdedLog : Rotating where
  live := liveOf (.ofString "/log") "fleet"
  file := ["log".toList, "fleet.log".toList]
  keep := 2
  limit := 8
  written := 12

def crowdedOpened : Host := (openLog (.ofString "/log") "fleet" 2 8 crowded).2

/-- The host after a text that is too long by itself, which the log takes all the same. -/
def crowdedOnce : Host := (crowdedLog.write "too long\n".toUTF8 crowdedOpened).2

def crowdedTwice : Host := ({ crowdedLog with written := 9 }.write "short\n".toUTF8 crowdedOnce).2

theorem crowded_stays_short :
    openLog (.ofString "/log") "fleet" 2 8 crowded = (.ok crowdedLog, crowdedOpened) ∧ crowded.Undisturbed ∧
      (∀ n < max 2 1, ¬ crowdedOpened.tree.DirAt (crowdedOpened.tree.goal (filePath crowdedLog.live n))) ∧
      ∃ after last, Writes crowdedLog crowdedOpened ["too long\n".toUTF8, "short\n".toUTF8] after last ∧
        (∃ content, after.contentAt? last.tree 0 = some content ∧ content.size = after.written) ∧
        ∀ n, 2 ≤ n → after.contentAt? last.tree n = crowdedLog.contentAt? crowded.tree n := by
  have hopen : openLog (.ofString "/log") "fleet" 2 8 crowded = (.ok crowdedLog, crowdedOpened) :=
    Prod.ext (by decide +kernel) rfl
  have hquiet : crowded.Undisturbed := fun _ _ ↦ rfl
  have hfree : ∀ n < max 2 1, ¬ crowdedOpened.tree.DirAt (crowdedOpened.tree.goal (filePath crowdedLog.live n)) := by
    have hfiles : ∀ n < max 2 1, (crowdedOpened.tree.at?
        (crowdedOpened.tree.goal (filePath crowdedLog.live n))).any FileNode.isDir = false := by decide +kernel
    rintro n hn ⟨entries, hentries⟩
    have hfile := hfiles n hn
    rw [hentries] at hfile
    cases hfile
  have honce : crowdedLog.write "too long\n".toUTF8 crowdedOpened =
      (.ok { crowdedLog with written := 9 }, crowdedOnce) := Prod.ext (by decide +kernel) rfl
  have htwice : { crowdedLog with written := 9 }.write "short\n".toUTF8 crowdedOnce =
      (.ok { crowdedLog with written := 6 }, crowdedTwice) := Prod.ext (by decide +kernel) rfl
  have hwrites : Writes crowdedLog crowdedOpened ["too long\n".toUTF8, "short\n".toUTF8] _ crowdedTwice :=
    .written (.written .none honce) htwice
  obtain ⟨hcounted, -, hleft, -⟩ := files_stay_short hopen hquiet hfree hwrites
  exact ⟨hopen, hquiet, hfree, _, _, hwrites, hcounted, hleft⟩

end FleetAgent.Log.Rotating
