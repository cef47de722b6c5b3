import FleetAgent.Proofs.MissingDirectories
import FleetAgent.Proofs.QuietHost

/-!
# A file is replaced, or nothing is

To replace a file is to make what is missing on the way to it and then a draft in its directory, which is
moved over the file when it is complete and dropped when anything goes wrong. Behind a move there is nothing
at the place of the draft, and behind a drop there is nothing either. So apart from the file itself, when it
went well, nothing differs in the end but that there may be new directories. A draft is left only where the
call that was to drop it failed itself, for a reason outside the tree.
-/

namespace FleetAgent

/-- A place with nothing before and nothing afterwards does not count. -/
theorem FileTree.ChangesOnly.of_none {tree later : FileTree} {location : Location} {changed : Location → Prop}
    (h : ChangesOnly (fun other ↦ other = location ∨ changed other) tree later)
    (hbefore : tree.at? location = none) (hafter : later.at? location = none) :
    ChangesOnly changed tree later := by
  refine ⟨h.toKeepsDirs, fun other hkept hdir ↦ ?_⟩
  by_cases hother : other = location
  · rw [hother, hbefore, hafter]
  · exact h.same other (not_or.2 ⟨hother, hkept⟩) hdir

namespace Host

variable {host after : Host} {path fresh : Path} {content old : ByteArray} {fault : FileError}

/-! ## The draft -/

/-- When the draft was filled and moved, the target has the content and the draft is gone. -/
theorem fillAndMove_eq_ok (hfresh : host.tree.Holds fresh old)
    (h : fillAndMove fresh path content host = (.ok (), after)) :
    after.tree.Holds path (old ++ content) ∧
      FileTree.ChangesOnly (fun location ↦ location = host.tree.goal fresh ∨ location = host.tree.goal path)
        host.tree after.tree ∧
      (host.tree.goal fresh ≠ host.tree.goal path → after.tree.at? (host.tree.goal fresh) = none) := by
  obtain ⟨hfill, filled, hholds, hall⟩ := fill_spec hfresh content
  obtain ⟨_, middle, hmiddle, h⟩ := bind_eq_ok h
  rw [hmiddle] at hfill hholds hall
  obtain rfl := hall rfl
  obtain ⟨_, synced, hsynced, hmove⟩ := bind_eq_ok h
  have htree : middle.tree = synced.tree := Except.ok.inj (alter_eq_ok hsynced)
  have honly := hfill.ends
  rw [htree] at honly hholds
  obtain ⟨hputs, hmoved, hgone⟩ := hholds.renamed (alter_eq_ok hmove)
  have hgoal := honly.toKeepsDirs.goal
  rw [hgoal, hgoal] at hmoved hgone
  exact ⟨hputs, (honly.mono fun _ hlocation ↦ .inl hlocation).trans hmoved, hgone⟩

/-- Where the draft cannot be moved it is still there, filled or not. -/
theorem fillAndMove_eq_error (hfresh : host.tree.Holds fresh old)
    (h : fillAndMove fresh path content host = (.error fault, after)) :
    ∃ filled, after.tree.Holds fresh filled ∧
      FileTree.ChangesOnly (· = host.tree.goal fresh) host.tree after.tree := by
  obtain ⟨hfill, filled, hholds, -⟩ := fill_spec hfresh content
  rcases bind_eq_error h with hfailed | ⟨_, middle, hmiddle, h⟩
  · rw [hfailed] at hfill hholds
    exact ⟨filled, hholds, hfill.ends⟩
  · rw [hmiddle] at hfill hholds
    have htree : after.tree = middle.tree := by
      rcases bind_eq_error h with hsync | ⟨_, synced, hsynced, hmove⟩
      · exact alter_eq_error hsync
      · rw [alter_eq_error hmove]
        exact (Except.ok.inj (alter_eq_ok hsynced)).symm
    rw [htree]
    exact ⟨filled, hholds, hfill.ends⟩

/-- A change that the tree allows fails for a reason outside the tree. -/
theorem faults_of_alter_eq_error {act : FileTree → Except FileError FileTree} {later : FileTree}
    (h : alter act host = (.error fault, after)) (hact : act host.tree = .ok later) :
    host.faults host.calls = some fault := by
  unfold alter call at h
  cases hplanted : host.faults host.calls with
  | some planted =>
    rw [hplanted] at h
    rw [Except.error.inj (Prod.mk.inj h).1]
  | none =>
    simp only [hplanted, hact, Except.map] at h
    cases h

/-- The last of the calls failed for a reason outside the tree. -/
def LastFaulted (host after : Host) : Prop :=
  ∃ n, host.calls ≤ n ∧ after.calls = n + 1 ∧ host.faults n ≠ none

theorem LastFaulted.of_advances {middle : Host} (hfirst : Advances host middle) (h : LastFaulted middle after) :
    LastFaulted host after := by
  obtain ⟨n, hn, hcalls, hfault⟩ := h
  exact ⟨n, Nat.le_trans hfirst.calls hn, hcalls, hfirst.faults ▸ hfault⟩

/-- A fault that was met shows that the host was disturbed. -/
theorem LastFaulted.not_undisturbed (h : LastFaulted host after) : ¬ host.Undisturbed := by
  obtain ⟨n, hn, -, hfault⟩ := h
  exact fun hquiet ↦ hfault (hquiet n hn)

/-- The draft is dropped, unless that fails for a reason outside the tree. -/
theorem drop_cases {result : Except FileError Unit} (hfresh : host.tree.Holds fresh content)
    (h : alter (·.remove fresh) host = (result, after)) :
    after.tree.at? (host.tree.goal fresh) = none ∧
        FileTree.ChangesOnly (· = host.tree.goal fresh) host.tree after.tree ∨
      after.tree = host.tree ∧ LastFaulted host after := by
  obtain ⟨later, hremove, hgone, honly⟩ := hfresh.remove
  cases result with
  | ok _ =>
    obtain rfl : later = after.tree := Except.ok.inj (hremove.symm.trans (alter_eq_ok h))
    exact .inl ⟨hgone, honly⟩
  | error fault =>
    have hcalls : after.calls = host.calls + 1 := by
      have hcounts := (call_counts (fun tree ↦ (tree.remove fresh).map ((), ·)) host).2
      rwa [← alter, h] at hcounts
    have hfault := faults_of_alter_eq_error h hremove
    exact .inr ⟨alter_eq_error h, host.calls, Nat.le_refl _, hcalls, by rw [hfault]; exact Option.some_ne_none _⟩

/-! ## Nothing begins to disturb a host -/

theorem advances_alter (act : FileTree → Except FileError FileTree) : Leads Advances (alter act) := advances_call _

theorem advances_makeDirs (path : Path) : Leads Advances (makeDirs path) :=
  leads_makeDirs (fun _ ↦ advances_alter _) path

theorem advances_fillAndMove (fresh path : Path) (content : ByteArray) :
    Leads Advances (fillAndMove fresh path content) :=
  (advances_alter _).bind fun _ ↦ (advances_alter _).bind fun _ ↦ advances_alter _

/-- What replacing a file does in its directory. -/
def replaceThere (path : Path) (content : ByteArray) : HostM FileError Unit := do
  match ← look (freshPath? · path.directory) with
  | none => throw .alreadyExists
  | some fresh =>
    alter (·.createNew fresh)
    match ← outcome (fillAndMove fresh path content) with
    | .ok _ => return
    | .error fault =>
      let _ ← outcome (alter (·.remove fresh))
      throw fault

theorem replaceFile_eq (path : Path) (content : ByteArray) :
    replaceFile path content = makeDirs path.directory >>= fun _ ↦ replaceThere path content := rfl

theorem advances_replaceThere (path : Path) (content : ByteArray) :
    Leads Advances (replaceThere path content) := by
  refine (leads_look _).bind fun fresh? ↦ ?_
  cases fresh? with
  | none => exact .throw FileError.alreadyExists
  | some fresh =>
    refine (advances_alter _).bind fun _ ↦ ?_
    refine (leads_outcome (advances_fillAndMove fresh path content)).bind fun result ↦ ?_
    cases result with
    | ok _ => exact .pure ()
    | error fault => exact (leads_outcome (advances_alter _)).bind fun _ ↦ .throw fault

theorem advances_replaceFile (path : Path) (content : ByteArray) : Leads Advances (replaceFile path content) :=
  replaceFile_eq path content ▸ (advances_makeDirs path.directory).bind fun _ ↦ advances_replaceThere path content

/-! ## In the directory -/

/-- The end when a file was not replaced. Apart from new directories on the way everything is as it was, or a
draft is left. -/
inductive Undone (way : Path) (host after : Host) : Prop where
  | clean (hlaid : FileTree.Laid way (fun _ ↦ False) host.tree after.tree)
  | stuck {draft : Location} (hdraft : DraftAt host.tree draft)
      (hlaid : FileTree.Laid way (· = draft) host.tree after.tree) (hlast : LastFaulted host after)

/-- Making directories first makes no difference. -/
theorem Undone.behind {middle : Host} {way : Path} (hfirst : Advances host middle)
    (hmade : FileTree.Laid way (fun _ ↦ False) host.tree middle.tree) (h : Undone way middle after) :
    Undone way host after := by
  cases h with
  | clean hlaid => exact .clean (hmade.trans hlaid)
  | stuck hdraft hlaid hlast =>
    refine .stuck ⟨hmade.toKeeps.at?_eq_none not_false hdraft.1, hdraft.2⟩ ?_ (hlast.of_advances hfirst)
    exact (hmade.mono fun _ ↦ False.elim).trans hlaid

theorem replaceThere_eq_ok (h : replaceThere path content host = (.ok (), after)) :
    after.tree.Holds path content ∧ FileTree.ChangesOnly (· = host.tree.goal path) host.tree after.tree := by
  obtain ⟨fresh?, seen, hseen, h⟩ := bind_eq_ok h
  obtain ⟨-, rfl⟩ := Prod.mk.inj hseen
  cases fresh? with
  | none => cases h
  | some fresh =>
    obtain ⟨_, created, hcreated, h⟩ := bind_eq_ok h
    obtain ⟨hnone, hempty, honly⟩ := FileTree.createNew_eq_ok (alter_eq_ok hcreated)
    rcases hfill : fillAndMove fresh path content created with ⟨fault | _, moved⟩
    · rw [bind_of_ok (outcome_of_eq hfill)] at h
      cases h
    · rw [bind_of_ok (outcome_of_eq hfill)] at h
      obtain ⟨-, rfl⟩ := Prod.mk.inj h
      obtain ⟨hholds, hmoved, hgone⟩ := fillAndMove_eq_ok hempty hfill
      rw [ByteArray.empty_append] at hholds
      have hgoal := honly.toKeepsDirs.goal
      rw [hgoal, hgoal] at hmoved hgone
      refine ⟨hholds, ?_⟩
      have hboth := (honly.mono fun _ hlocation ↦ .inl hlocation).trans hmoved
      by_cases hsame : host.tree.goal fresh = host.tree.goal path
      · exact hboth.mono fun _ hlocation ↦ hlocation.elim (·.trans hsame) id
      · exact hboth.of_none hnone (hgone hsame)

/-- Once the draft is dropped it is as if it had never been made. -/
theorem undone_of_drop {left : Host} {result : Except FileError Unit} (way : Path)
    (hdraft : DraftAt host.tree (host.tree.goal fresh)) (hfirst : Advances host left)
    (hmade : FileTree.ChangesOnly (· = host.tree.goal fresh) host.tree left.tree)
    (hholds : left.tree.Holds fresh content) (hdrop : alter (·.remove fresh) left = (result, after)) :
    Undone way host after := by
  rcases drop_cases hholds hdrop with ⟨hgone, hdropped⟩ | ⟨htree, hlast⟩
  · rw [hmade.toKeepsDirs.goal] at hgone hdropped
    have hboth : FileTree.ChangesOnly (fun other ↦ other = host.tree.goal fresh ∨ False) host.tree after.tree :=
      (hmade.trans hdropped).mono fun _ ↦ .inl
    exact .clean ((hboth.of_none hdraft.1 hgone).laid way)
  · exact .stuck hdraft (htree ▸ hmade.laid way) (hlast.of_advances hfirst)

theorem replaceThere_eq_error (way : Path) (h : replaceThere path content host = (.error fault, after)) :
    Undone way host after := by
  rcases bind_eq_error h with hlook | ⟨fresh?, seen, hseen, h⟩
  · cases hlook
  obtain ⟨hname, rfl⟩ := Prod.mk.inj hseen
  cases fresh? with
  | none =>
    obtain ⟨-, rfl⟩ := Prod.mk.inj h
    exact .clean (.refl way _ host.tree)
  | some fresh =>
    have hfresh : freshPath? host.tree path.directory = some fresh := Except.ok.inj hname
    rcases bind_eq_error h with hcreate | ⟨_, created, hcreated, h⟩
    · exact .clean (alter_eq_error hcreate ▸ .refl way _ after.tree)
    obtain ⟨hnone, hempty, honly⟩ := FileTree.createNew_eq_ok (alter_eq_ok hcreated)
    rcases hfill : fillAndMove fresh path content created with ⟨failed | _, left⟩
    · rw [bind_of_ok (outcome_of_eq hfill)] at h
      rcases hdrop : alter (·.remove fresh) left with ⟨result, dropped⟩
      dsimp only at h
      rw [bind_of_ok (outcome_of_eq hdrop)] at h
      obtain rfl := (Prod.mk.inj h).2
      obtain ⟨filled, hholds, hfilled⟩ := fillAndMove_eq_error hempty hfill
      rw [honly.toKeepsDirs.goal] at hfilled
      have hcreates := advances_alter (·.createNew fresh) host
      have hfills := advances_fillAndMove fresh path content created
      rw [hcreated] at hcreates
      rw [hfill] at hfills
      exact undone_of_drop way ⟨hnone, goal_of_freshPath? hfresh _⟩ (IsTrans.trans _ _ _ hcreates hfills)
        (honly.trans hfilled) hholds hdrop
    · rw [bind_of_ok (outcome_of_eq hfill)] at h
      cases h

/-! ## With the directories on the way -/

/-- A file that was replaced has its content, and nothing else is new but directories on the way to it. -/
theorem replaceFile_eq_ok (h : replaceFile path content host = (.ok (), after)) :
    after.tree.Holds path content ∧
      FileTree.Laid path.directory (· = host.tree.goal path) host.tree after.tree := by
  obtain ⟨_, made, hmade, h⟩ := bind_eq_ok h
  have hmakes := (laid_makeDirs (· = host.tree.goal path) path.directory host).ends
  rw [hmade] at hmakes
  obtain ⟨hholds, honly⟩ := replaceThere_eq_ok h
  rw [hmakes.toKeepsDirs.goal] at honly
  exact ⟨hholds, hmakes.trans (honly.laid path.directory)⟩

/-- A file that was not replaced is as it was; a draft is left only where dropping it failed as well. -/
theorem replaceFile_eq_error (h : replaceFile path content host = (.error fault, after)) :
    Undone path.directory host after := by
  have hmakes := (laid_makeDirs (fun _ ↦ False) path.directory host).ends
  have hfirst := advances_makeDirs path.directory host
  rcases bind_eq_error h with hfailed | ⟨_, made, hmade, h⟩
  · rw [hfailed] at hmakes
    exact .clean hmakes
  · rw [hmade] at hmakes hfirst
    exact (replaceThere_eq_error path.directory h).behind hfirst hmakes

/-- No draft is left on a host that nothing disturbs. -/
theorem Undone.clean_of_undisturbed {way : Path} (h : Undone way host after) (hquiet : host.Undisturbed) :
    FileTree.Laid way (fun _ ↦ False) host.tree after.tree := by
  cases h with
  | clean hlaid => exact hlaid
  | stuck _ _ hlast => exact absurd hquiet hlast.not_undisturbed

def furnished : Host where
  tree := { root := .dir [("conf".toList, .dir []), ("etc".toList, .dir [("value".toList, .file "old".toUTF8)])] }

/-- The call that drops the draft is the sixth. -/
example : ((replaceFile (.ofString "/conf") "new".toUTF8
    { furnished with faults := fun n ↦ if n = 5 then some .busy else none }).2.tree.at?
      [temporaryName 0]).isSome = true := by
  decide +kernel

end Host

end FleetAgent
