import FleetAgent.Proofs.FileCalls
import FleetAgent.Proofs.HostActs

/-!
# Wherever an activity stops

A host keeps the tree as it stood behind every call, so these are the trees at which an activity can be
cut short. `Throughout R` says of two states of a host that at all of them, the last one included, the
tree is in the relation `R` to the tree at the beginning.

A file is replaced by filling a draft beside it and moving the draft over it. Wherever that stops, all
other files are as they were, drafts excepted, and the file itself holds all of its old content until the
last call gives it all of its new one.
-/

namespace FleetAgent

namespace Host

variable {R R' : FileTree → FileTree → Prop} {host middle after : Host}

/-- From one state to the other the trees were in the relation to the first one, behind every call. -/
structure Throughout (R : FileTree → FileTree → Prop) (host after : Host) : Prop where
  stops : ∃ added, after.trail = added ++ host.trail ∧ ∀ tree ∈ added, R host.tree tree
  ends : R host.tree after.tree

instance [Std.Refl R] : Std.Refl (Throughout R) :=
  ⟨fun host ↦ ⟨⟨[], rfl, by simp⟩, Std.Refl.refl host.tree⟩⟩

theorem Throughout.mono (h : Throughout R host after) (hR : ∀ tree, R host.tree tree → R' host.tree tree) :
    Throughout R' host after := by
  obtain ⟨⟨added, hadded, hstops⟩, hends⟩ := h
  exact ⟨⟨added, hadded, fun tree htree ↦ hR tree (hstops tree htree)⟩, hR _ hends⟩

/-- Where one activity follows another, what holds from the middle on has to hold from the beginning. -/
theorem Throughout.followed (h : Throughout R host middle) (h' : Throughout R' middle after)
    (hR : ∀ tree, R' middle.tree tree → R host.tree tree) : Throughout R host after := by
  obtain ⟨⟨added, hadded, hstops⟩, -⟩ := h
  obtain ⟨⟨more, hmore, hlater⟩, hends⟩ := h'
  refine ⟨⟨more ++ added, by rw [hmore, hadded, List.append_assoc], ?_⟩, hR _ hends⟩
  intro tree htree
  rcases List.mem_append.1 htree with htree | htree
  · exact hR tree (hlater tree htree)
  · exact hstops tree htree

/-- One more call. -/
theorem Throughout.push (h : Throughout R host middle) (htrail : after.trail = after.tree :: middle.trail)
    (hR : R host.tree after.tree) : Throughout R host after := by
  obtain ⟨⟨added, hadded, hstops⟩, -⟩ := h
  refine ⟨⟨after.tree :: added, by rw [htrail, hadded, List.cons_append], ?_⟩, hR⟩
  exact List.forall_mem_cons.2 ⟨hR, hstops⟩

instance [IsTrans FileTree R] : IsTrans Host (Throughout R) :=
  ⟨fun _ _ _ h h' ↦ h.followed h' fun _ ↦ IsTrans.trans _ _ _ h.ends⟩

/-! ## Single changes -/

/-- A call happens whole or not at all, and the tree behind it is kept. -/
theorem call_spec (act : FileTree → Except FileError (α × FileTree)) (host : Host) :
    (call act host).2.trail = (call act host).2.tree :: host.trail ∧
      ((∃ fault, (call act host).1 = .error fault ∧ (call act host).2.tree = host.tree) ∨
        ∃ value, (call act host).1 = .ok value ∧ act host.tree = .ok (value, (call act host).2.tree)) := by
  unfold call
  cases host.faults host.calls with
  | some fault => exact ⟨rfl, .inl ⟨fault, rfl, rfl⟩⟩
  | none =>
    cases act host.tree with
    | error fault => exact ⟨rfl, .inl ⟨fault, rfl, rfl⟩⟩
    | ok result => exact ⟨rfl, .inr ⟨result.1, rfl, rfl⟩⟩

/-- A call that gives a value has done what it does to the tree. -/
theorem call_eq_ok {act : FileTree → Except FileError (α × FileTree)} {value : α}
    (h : call act host = (.ok value, after)) : act host.tree = .ok (value, after.tree) := by
  obtain ⟨-, ⟨fault, hfault, -⟩ | ⟨found, hfound, hact⟩⟩ := call_spec act host
  · rw [h] at hfault
    cases hfault
  · rw [h] at hfound hact
    rw [hact, Except.ok.inj hfound]

/-- A call is over in one step, so only the trees before and behind it have to be compared. -/
theorem throughout_call [Std.Refl R] {act : FileTree → Except FileError (α × FileTree)}
    (h : ∀ value later, act host.tree = .ok (value, later) → R host.tree later) :
    Throughout R host (call act host).2 := by
  obtain ⟨htrail, hcases⟩ := call_spec act host
  have hends : R host.tree (call act host).2.tree := by
    rcases hcases with ⟨fault, -, htree⟩ | ⟨value, -, hact⟩
    · rw [htree]
      exact Std.Refl.refl host.tree
    · exact h value _ hact
  exact (Std.Refl.refl host : Throughout R host host).push htrail hends

variable {act : FileTree → Except FileError FileTree}

theorem alter_act_eq_ok {tree : FileTree} {result : Unit × FileTree}
    (h : (act tree).map (((), ·)) = .ok result) : act tree = .ok result.2 := by
  cases hact : act tree with
  | error fault => simp [hact, Except.map] at h
  | ok later =>
    rw [hact] at h
    obtain rfl := Except.ok.inj h
    rfl

/-- A change happens whole or not at all, and the tree behind it is kept. -/
theorem alter_spec (act : FileTree → Except FileError FileTree) (host : Host) :
    (alter act host).2.trail = (alter act host).2.tree :: host.trail ∧
      ((∃ fault, (alter act host).1 = .error fault ∧ (alter act host).2.tree = host.tree) ∨
        ((alter act host).1 = .ok () ∧ act host.tree = .ok (alter act host).2.tree)) := by
  obtain ⟨htrail, hfailed | ⟨_, hok, hact⟩⟩ := call_spec (fun tree ↦ (act tree).map (((), ·))) host
  · exact ⟨htrail, .inl hfailed⟩
  · exact ⟨htrail, .inr ⟨hok, alter_act_eq_ok hact⟩⟩

theorem alter_eq_ok (h : alter act host = (.ok (), after)) : act host.tree = .ok after.tree := by
  obtain ⟨-, ⟨fault, hfault, -⟩ | ⟨-, hact⟩⟩ := alter_spec act host
  · rw [h] at hfault
    cases hfault
  · rwa [h] at hact

/-- A call that fails changes nothing. -/
theorem alter_eq_error {fault : FileError} (h : alter act host = (.error fault, after)) :
    after.tree = host.tree := by
  obtain ⟨-, ⟨_, -, htree⟩ | ⟨hok, -⟩⟩ := alter_spec act host
  · rwa [h] at htree
  · rw [h] at hok
    cases hok

theorem throughout_alter [Std.Refl R] (h : ∀ later, act host.tree = .ok later → R host.tree later) :
    Throughout R host (alter act host).2 :=
  throughout_call fun _ later hact ↦ h later (alter_act_eq_ok hact)

instance (changed : Location → Prop) : Std.Refl (FileTree.ChangesOnly changed) := ⟨.refl changed⟩

instance (changed : Location → Prop) : IsTrans FileTree (FileTree.ChangesOnly changed) := ⟨fun _ _ _ ↦ .trans⟩

instance (changed : Location → Prop) : Std.Refl (FileTree.Keeps changed) := ⟨.refl changed⟩

instance (changed : Location → Prop) : IsTrans FileTree (FileTree.Keeps changed) := ⟨fun _ _ _ ↦ .trans⟩

/-! ## Replacing a file -/

/-- A draft may be made at the location: there is nothing, and the name is one of a temporary file. -/
def DraftAt (tree : FileTree) (location : Location) : Prop :=
  tree.at? location = none ∧ ∃ n, location.getLast? = some (temporaryName n)

theorem isEntryName_temporaryName (n : Nat) : Path.IsEntryName (temporaryName n) where
  ne_nil := List.cons_ne_nil _ _
  noSlash := by
    intro hslash
    rcases List.mem_append.1 hslash with hmark | hdigit
    · exact absurd hmark (by decide)
    · exact absurd (Nat.isDigit_of_mem_toDigits (by decide) (by decide) hdigit) (by decide)
  moves := by simp [temporaryName]

/-- A fresh path has the name of a temporary file. -/
theorem goal_of_freshPath? {tree : FileTree} {directory fresh : Path}
    (h : freshPath? tree directory = some fresh) (other : FileTree) :
    ∃ n, (other.goal fresh).getLast? = some (temporaryName n) := by
  obtain ⟨n, -, rfl⟩ := List.mem_map.1 (List.mem_of_find?_eq_some h)
  refine ⟨n, ?_⟩
  rw [other.goal_join directory (isEntryName_temporaryName n), List.getLast?_concat]

/-- At no time of making directories is any file different. -/
theorem throughout_makeDirs (changed : Location → Prop) (path : Path) :
    Leads (Throughout (FileTree.Keeps changed)) (makeDirs path) :=
  leads_makeDirs (fun _ _ ↦ throughout_alter fun _ h ↦ FileTree.keeps_makeDir h changed) path

/-- Up to a last call nothing but drafts was changed, and this call gave the file its content. -/
structure Replaces (changed : Location → Prop) (path : Path) (content : ByteArray) (host after : Host) :
    Prop where
  last : ∃ before, Throughout (FileTree.Keeps changed) host before ∧
    FileTree.Keeps (fun location ↦ changed location ∨ location = host.tree.goal path) before.tree after.tree ∧
    after.trail = after.tree :: before.trail
  holds : after.tree.Holds path content

variable {changed : Location → Prop} {path fresh : Path} {content old : ByteArray}

/-- The end of replacing a file, when it fails or goes well. -/
def Ends (changed : Location → Prop) (path : Path) (content : ByteArray) (act : HostM FileError Unit)
    (host : Host) : Prop :=
  (∃ fault, (act host).1 = .error fault ∧ Throughout (FileTree.Keeps changed) host (act host).2) ∨
    (act host).1 = .ok () ∧ Replaces changed path content host (act host).2

/-- A replacement may be put behind calls that change nothing but drafts. -/
theorem Replaces.of_throughout (hbefore : Throughout (FileTree.Keeps changed) host middle)
    (h : Replaces changed path content middle after) : Replaces changed path content host after := by
  obtain ⟨⟨before, hmiddle, hkeeps, htrail⟩, hholds⟩ := h
  rw [hbefore.ends.toKeepsDirs.goal] at hkeeps
  exact ⟨⟨before, IsTrans.trans _ _ _ hbefore hmiddle, hkeeps, htrail⟩, hholds⟩

/-- What is done first changes nothing but drafts, whether it fails or not. -/
theorem Ends.bind {act : HostM FileError α} {next : α → HostM FileError Unit}
    (hact : Throughout (FileTree.Keeps changed) host (act host).2)
    (hnext : ∀ value middle, act host = (.ok value, middle) → Ends changed path content (next value) middle) :
    Ends changed path content (act >>= next) host := by
  unfold Ends
  rw [bind_apply]
  rcases hrun : act host with ⟨fault | value, middle⟩
  · rw [hrun] at hact
    exact .inl ⟨fault, rfl, hact⟩
  · rw [hrun] at hact
    rcases hnext value middle hrun with ⟨fault, hfault, hlater⟩ | ⟨hok, hreplaces⟩
    · exact .inl ⟨fault, hfault, IsTrans.trans _ _ _ hact hlater⟩
    · exact .inr ⟨hok, hreplaces.of_throughout hact⟩

/-- Filling the draft. -/
theorem fill_spec (hfresh : host.tree.Holds fresh old) (content : ByteArray) :
    let act := alter fun tree ↦ do return tree.append (← tree.locate fresh) content
    Throughout (FileTree.ChangesOnly (· = host.tree.goal fresh)) host (act host).2 ∧
      ∃ filled, (act host).2.tree.Holds fresh filled ∧ ((act host).1 = .ok () → filled = old ++ content) := by
  intro act
  have hput : (do return host.tree.append (← host.tree.locate fresh) content : Except FileError FileTree) =
      .ok (host.tree.append (host.tree.goal fresh) content) := by
    rw [hfresh.locate]
    rfl
  obtain ⟨hholds, honly⟩ := hfresh.append content
  refine ⟨throughout_alter fun later hlater ↦ ?_, ?_⟩
  · rw [hput] at hlater
    obtain rfl := Except.ok.inj hlater
    exact honly
  · rcases hfill : act host with ⟨fault | _, filled⟩
    · exact ⟨old, alter_eq_error hfill ▸ hfresh, nofun⟩
    · have hact := alter_eq_ok hfill
      rw [hput] at hact
      exact ⟨old ++ content, Except.ok.inj hact ▸ hholds, fun _ ↦ rfl⟩

/-- Moving the draft. -/
theorem move_ends (hfresh : host.tree.Holds fresh content) (hdraft : changed (host.tree.goal fresh)) :
    Ends changed path content (alter (·.rename fresh path)) host := by
  have htrail := (alter_spec (·.rename fresh path) host).1
  rcases hmove : alter (·.rename fresh path) host with ⟨fault | _, moved⟩
  · have hsame := alter_eq_error hmove
    refine .inl ⟨fault, by rw [hmove], ?_⟩
    rw [hmove] at htrail ⊢
    exact (Std.Refl.refl host : Throughout _ host host).push htrail (hsame ▸ .refl changed host.tree)
  · obtain ⟨hputs, honly, -⟩ := hfresh.renamed (alter_eq_ok hmove)
    refine .inr ⟨by rw [hmove], ?_⟩
    rw [hmove] at htrail ⊢
    refine ⟨⟨host, Std.Refl.refl host, honly.keeps.mono ?_, htrail⟩, hputs⟩
    rintro location (rfl | rfl)
    · exact .inl hdraft
    · exact .inr rfl

/-- Filling a draft and moving it ends with the old file or with all of the new content. -/
theorem fillAndMove_ends (hfresh : host.tree.Holds fresh old) (hdraft : changed (host.tree.goal fresh)) :
    Ends changed path (old ++ content) (fillAndMove fresh path content) host := by
  obtain ⟨hfill, filled, hholds, hall⟩ := fill_spec hfresh content
  have hdrafts : Throughout (FileTree.Keeps changed) host _ :=
    hfill.mono fun _ honly ↦ honly.keeps.mono fun _ hlocation ↦ hlocation ▸ hdraft
  unfold fillAndMove
  refine .bind hdrafts fun _ middle hmiddle ↦ ?_
  rw [hmiddle] at hholds hall hfill
  obtain rfl := hall rfl
  have hgoal := hfill.ends.toKeepsDirs.goal fresh
  refine .bind (throughout_alter fun later hlater ↦ Except.ok.inj hlater ▸ .refl changed middle.tree)
    fun _ synced hsynced ↦ ?_
  have htree : middle.tree = synced.tree := Except.ok.inj (alter_eq_ok hsynced)
  rw [htree] at hholds hgoal
  exact move_ends hholds (hgoal ▸ hdraft)

/-- Dropping the draft that is left when something failed. -/
theorem throughout_dropDraft (hdraft : changed (host.tree.goal fresh)) :
    Throughout (FileTree.Keeps changed) host (alter (·.remove fresh) host).2 :=
  throughout_alter fun _ hlater ↦
    (FileTree.remove_eq_ok hlater).keeps.mono fun _ hlocation ↦ hlocation ▸ hdraft

/-- When the file cannot be replaced the draft is dropped. -/
theorem Ends.orDrop {act : HostM FileError Unit} (h : Ends changed path content act host)
    (hdraft : changed (host.tree.goal fresh)) :
    Ends changed path content (do
      match ← outcome act with
      | .ok _ => return
      | .error fault =>
        let _ ← outcome (alter (·.remove fresh))
        throw fault) host := by
  rcases hact : act host with ⟨result, left⟩
  unfold Ends at h ⊢
  rw [bind_of_ok (outcome_of_eq hact)]
  rw [hact] at h
  rcases h with ⟨fault, hfault, hleft⟩ | ⟨hok, hreplaces⟩
  · obtain rfl : result = .error fault := hfault
    have hdropped : Throughout (FileTree.Keeps changed) left (alter (·.remove fresh) left).2 :=
      throughout_dropDraft (hleft.ends.toKeepsDirs.goal fresh ▸ hdraft)
    exact .inl ⟨fault, rfl, IsTrans.trans _ _ _ hleft hdropped⟩
  · obtain rfl : result = .ok () := hok
    exact .inr ⟨rfl, hreplaces⟩

/-- A draft that is made behind the directories is one that could have been made before them. -/
theorem draftAt_of_keeps {tree later : FileTree} {directory : Path}
    (hkeeps : FileTree.Keeps (DraftAt tree) tree later) (hfresh : freshPath? later directory = some fresh)
    (hnone : later.at? (later.goal fresh) = none) : DraftAt tree (later.goal fresh) := by
  refine ⟨?_, goal_of_freshPath? hfresh later⟩
  by_cases hdraft : DraftAt tree (later.goal fresh)
  · exact hdraft.1
  · exact hkeeps.at?_eq_none hdraft hnone

/-- Replacing a file leaves nothing but drafts in the end when it fails, and until its last call when it
goes well. -/
theorem replaceFile_ends (path : Path) (content : ByteArray) (host : Host) :
    Ends (DraftAt host.tree) path content (replaceFile path content) host := by
  have hmakes := throughout_makeDirs (DraftAt host.tree) path.directory host
  unfold replaceFile
  refine .bind hmakes fun _ made hmade ↦ ?_
  rw [hmade] at hmakes
  refine .bind (Std.Refl.refl made) fun fresh? seen hseen ↦ ?_
  obtain ⟨hname, rfl⟩ := Prod.mk.inj hseen
  cases fresh? with
  | none => exact .inl ⟨.alreadyExists, rfl, Std.Refl.refl made⟩
  | some fresh =>
    have hfresh : freshPath? made.tree path.directory = some fresh := Except.ok.inj hname
    have hcreates : Throughout (FileTree.Keeps (DraftAt host.tree)) made
        (alter (·.createNew fresh) made).2 := by
      refine throughout_alter fun later hlater ↦ ?_
      obtain ⟨hnone, -, honly⟩ := FileTree.createNew_eq_ok hlater
      exact honly.keeps.mono fun _ hlocation ↦ hlocation ▸ draftAt_of_keeps hmakes.ends hfresh hnone
    refine .bind hcreates fun _ created hcreated ↦ ?_
    rw [hcreated] at hcreates
    obtain ⟨hnone, hempty, -⟩ := FileTree.createNew_eq_ok (alter_eq_ok hcreated)
    have hdraft : DraftAt host.tree (created.tree.goal fresh) := by
      rw [hcreates.ends.toKeepsDirs.goal]
      exact draftAt_of_keeps hmakes.ends hfresh hnone
    have hends : Ends (DraftAt host.tree) path (.empty ++ content) (fillAndMove fresh path content) created :=
      fillAndMove_ends hempty hdraft
    rw [ByteArray.empty_append] at hends
    exact hends.orDrop hdraft

end Host

end FleetAgent
