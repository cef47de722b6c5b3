import FleetAgent.Proofs.DirectoryEntries
import FleetAgent.Proofs.StoreSessions
import FleetAgent.Proofs.StoreStops
import FleetAgent.Proofs.TwoRuns

/-!
# The identity stays out of the settings file

Two stores are used alike on hosts between which nothing differs but what the identity files hold. Whatever
is read, changed and written, and wherever it fails, the stores differ in their identities alone: they give
the same results, report the same, and leave the same bytes in their settings file.

Where calls fail for reasons outside the tree a temporary file may be left behind, and may hold the
identity. So on such a host no temporary file counts as a settings file.
-/

namespace FleetAgent

namespace FileTree

variable {tree : FileTree} {path : Path} {content : ByteArray}

theorem fileAt?_of_read (h : tree.read path = .ok content) : tree.fileAt? (tree.goal path) = some content := by
  cases hfound : tree.locate path with
  | error fault =>
    rw [read_of_locate_eq_error hfound] at h
    cases h
  | ok location =>
    rw [read_of_locate hfound] at h
    rw [goal_of_locate hfound]
    split at h
    · next hfile =>
      obtain rfl := Except.ok.inj h
      exact fileAt?_of_file hfile
    · cases h
    · cases h

end FileTree

/-- The text of the settings file tells nothing of the identity. -/
theorem Settings.toText_anonymous (settings : Settings) : settings.anonymous.toText = settings.toText := rfl

namespace Store

variable {store other : Store} {path identityDir : Path} {host start : Host} {tree : FileTree}

/-! ## Saving -/

/-- Nothing differs between the stores but the identities. -/
abbrev Alike (store other : Store) : Prop := store.Twins (fun _ _ _ ↦ True) other

theorem Alike.toText (h : store.Alike other) : store.settings.toText = other.settings.toText := by
  rw [← Settings.toText_anonymous, h.settings.anonymous, Settings.toText_anonymous]

/-- Whatever the identities are, saving goes alike. -/
theorem parallel_save (h : store.Alike other) :
    Parallel (Host.Twins FileTree.SameOutline) (· = ·) store.save other.save := by
  have hother := h.file
  cases hfile : store.file with
  | none =>
    rw [hfile] at hother
    intro host host' hhosts
    rw [save_of_noFile hfile, save_of_noFile hother.symm]
    exact ⟨.error _, hhosts⟩
  | some path =>
    rw [hfile] at hother
    have hwrite (file : IdentityFile) (value value' : String) :
        Parallel (Host.Twins FileTree.SameOutline) (· = ·) (file.write store.identityDir value)
          (file.write store.identityDir value') :=
      (Host.parallel_mapError _ (Host.parallel_replaceFile _ _ _)).bind fun _ _ _ ↦ Host.parallel_report _
    unfold save
    rw [getFile_of_file hfile, getFile_of_file hother.symm, pure_bind, pure_bind, ← h.identityDir]
    refine (Host.parallel_mapError _ (hwrite .systemId _ _)).bind fun _ _ _ ↦ ?_
    refine (Host.parallel_mapError _ (hwrite .secret _ _)).bind fun _ _ _ ↦ ?_
    refine (Host.parallel_mapError _ (Host.parallel_replaceFile _ _ _)).bind fun _ _ _ ↦ ?_
    exact Host.parallel_report (saved path)

def Readable (identityDir : Path) (tree : FileTree) : Prop :=
  ∀ file : IdentityFile, ∃ text : String, tree.read (file.path identityDir) = .ok text.toUTF8

/-- What is known of the files behind saving, when there was a settings file. -/
structure SavedFiles (store : Store) (path : Path) (host after : Host) (result : Except StoreError Unit) :
    Prop where
  done : result = .ok () → after.tree.fileAt? (host.tree.goal path) = some store.settings.toText.toUTF8
  failed : ∀ error, result = .error error →
    after.tree.fileAt? (host.tree.goal path) = host.tree.fileAt? (host.tree.goal path)
  readable : Readable store.identityDir host.tree → Readable store.identityDir after.tree

/-- However saving ends, the settings file has the new text or the old one, and the identity can still be
read. -/
theorem savedFiles_save (hfile : store.file = some path) (hapart : store.SettingsApart path host.tree)
    (hthere : (host.tree.fileAt? (host.tree.goal path)).isSome) :
    store.SavedFiles path host (store.save host).2 (store.save host).1 := by
  have hdraft : ¬ Host.DraftAt host.tree (host.tree.goal path) := by
    rintro ⟨hnone, -⟩
    rw [FileTree.fileAt?_of_none hnone] at hthere
    cases hthere
  obtain ⟨n, hn, hsaved, hall⟩ := savedUpTo_save host hfile hapart hdraft
  refine ⟨fun hok ↦ ?_, fun error herror ↦ ?_, fun hreadable file ↦ ?_⟩
  · obtain rfl := hall.1 hok
    exact hsaved.new (path, store.settings.toText.toUTF8) (by simp [writes])
  · exact hsaved.settings_old (lt_of_error hn hall herror)
  · obtain ⟨text, htext⟩ := hreadable file
    have hholds : host.tree.Holds (file.path store.identityDir) text.toUTF8 :=
      FileTree.holds_of_read file.isEntryName_name htext
    have hkeeps := (touches_save hfile host).keeps.toKeepsDirs
    have hafter (text : String)
        (h : (store.save host).2.tree.fileAt? (host.tree.goal (file.path store.identityDir)) = some text.toUTF8) :
        ∃ text : String, (store.save host).2.tree.read (file.path store.identityDir) = .ok text.toUTF8 := by
      rw [← hkeeps.goal] at h
      exact ⟨text, FileTree.Holds.read ⟨hkeeps.namesEntry hholds.names, FileTree.at?_of_fileAt? h⟩⟩
    obtain ⟨value, hwrite⟩ :
        ∃ value : String, (file.path store.identityDir, value.toUTF8) ∈ store.writes path := by
      cases file with
      | systemId => exact ⟨store.settings.systemId, by simp [writes]⟩
      | secret => exact ⟨store.settings.secret, by simp [writes]⟩
    rw [← List.take_append_drop n (store.writes path), List.mem_append] at hwrite
    rcases hwrite with hnew | hold
    · exact hafter value (hsaved.new _ hnew)
    · exact hafter text ((hsaved.old _ hold).trans hholds.fileAt?)

/-! ## Turns -/

/-- The files that may tell something of the identity: its own files, and temporary ones where they may be
left behind. -/
def Concealed (identityDir : Path) (start : Host) (location : Location) : Prop :=
  (∃ file : IdentityFile, location = start.tree.goal (file.path identityDir)) ∨
    ¬ start.Undisturbed ∧ ∃ n, location.getLast? = some (Host.temporaryName n)

/-- Nothing but saved settings and concealed files is different after saving. -/
theorem keeps_save (hfile : store.file = some path) (hhere : host.tree.here = start.tree.here)
    (hquiet : start.Undisturbed → host.Undisturbed) :
    FileTree.Keeps
      (fun location ↦ Concealed store.identityDir start location ∨ location = host.tree.goal path)
      host.tree (store.save host).2.tree := by
  have htouches := touches_save hfile host
  have hgoal (path : Path) : host.tree.goal path = start.tree.goal path :=
    FileTree.goal_of_here hhere path
  have hown (location : Location)
      (h : ∃ own ∈ ownFiles path store.identityDir, location = host.tree.goal own) :
      Concealed store.identityDir start location ∨ location = host.tree.goal path := by
    obtain ⟨own, hown, rfl⟩ := h
    simp only [ownFiles, List.mem_cons, List.not_mem_nil, or_false] at hown
    rcases hown with rfl | rfl | rfl
    · exact .inl (.inl ⟨.systemId, hgoal _⟩)
    · exact .inl (.inl ⟨.secret, hgoal _⟩)
    · exact .inr rfl
  by_cases hstart : start.Undisturbed
  · exact (htouches.quiet (hquiet hstart)).2.mono hown
  · refine htouches.keeps.mono ?_
    rintro location (⟨-, hname⟩ | hlocation)
    · exact .inl (.inr ⟨hstart, hname⟩)
    · exact hown location hlocation

/-- What holds of a scene by itself, in a sequence of turns. -/
structure Scene.Staged (identityDir : Path) (start : Host) (scene : Scene) : Prop where
  dir : scene.store.identityDir = identityDir
  here : scene.host.tree.here = start.tree.here
  quiet : start.Undisturbed → scene.host.Undisturbed
  readable : Readable identityDir scene.host.tree
  known : ∀ path, scene.store.file = some path →
    ¬ Concealed identityDir start (start.tree.goal path) ∧
      (scene.host.tree.fileAt? (start.tree.goal path)).isSome

/-- Nothing differs between the scenes but the identity and what may tell of it. -/
structure Scene.Alike (identityDir : Path) (start : Host) (scene other : Scene) : Prop where
  stores : scene.store.Alike other.store
  hosts : Host.Twins (FileTree.Alike (Concealed identityDir start)) scene.host other.host
  staged : scene.Staged identityDir start
  staged' : other.Staged identityDir start

/-- Acts that differ at most in the identity that they give to the store. What is loaded is concealed in no
way. -/
inductive Act.Alike (identityDir : Path) (start : Host) : Act → Act → Prop where
  | load (path : Path) (hshown : ¬ Concealed identityDir start (start.tree.goal path)) :
    Act.Alike identityDir start (.load path) (.load path)
  | reload : Act.Alike identityDir start .reload .reload
  | save : Act.Alike identityDir start .save .save
  | change (edit edit' : Settings → Settings)
    (h : ∀ settings settings' : Settings, settings.anonymous = settings'.anonymous →
      (edit settings).anonymous = (edit' settings').anonymous) :
    Act.Alike identityDir start (.change edit) (.change edit')

variable {scene scene' : Scene} {act act' : Act}

/-- In every scene a path leads where it led at the start. -/
theorem Scene.Staged.goal (h : scene.Staged identityDir start) (path : Path) :
    scene.host.tree.goal path = start.tree.goal path :=
  FileTree.goal_of_here h.here path

theorem Scene.Staged.apart (h : scene.Staged identityDir start) (hfile : scene.store.file = some path) :
    scene.store.SettingsApart path scene.host.tree := by
  intro file hsame
  rw [h.goal, h.goal, h.dir] at hsame
  exact (h.known path hfile).1 (.inl ⟨file, hsame⟩)

/-- Reading leaves the scene staged. -/
theorem Scene.Staged.of_load (h : scene.Staged identityDir start)
    (hshown : ¬ Concealed identityDir start (start.tree.goal path)) :
    (scene.adopt (scene.store.load path)).2.Staged identityDir start := by
  have hwatches := watches_load scene.store path scene.host
  unfold Scene.adopt
  rcases hload : scene.store.load path scene.host with ⟨error | loaded, host⟩ <;> rw [hload] at hwatches <;>
    obtain ⟨htree, hstays⟩ := hwatches <;> dsimp only at htree ⊢
  · exact ⟨h.dir, htree ▸ h.here, fun hstart ↦ hstays (h.quiet hstart), htree ▸ h.readable,
      htree ▸ h.known⟩
  · obtain ⟨settings, ⟨text, -, -, -, hread, -⟩, rfl⟩ := load_eq_ok hload
    refine ⟨h.dir, htree ▸ h.here, fun hstart ↦ hstays (h.quiet hstart), htree ▸ h.readable, ?_⟩
    rintro _ ⟨⟩
    refine ⟨hshown, ?_⟩
    rw [htree, ← h.goal, FileTree.fileAt?_of_read hread]
    rfl

/-- Reading goes alike, and leaves the scenes alike. -/
theorem Scene.Alike.adopt_load (h : scene.Alike identityDir start scene')
    (hshown : ¬ Concealed identityDir start (start.tree.goal path)) :
    (scene.adopt (scene.store.load path)).1 = (scene'.adopt (scene'.store.load path)).1 ∧
      (scene.adopt (scene.store.load path)).2.Alike identityDir start
        (scene'.adopt (scene'.store.load path)).2 := by
  have hstaged := h.staged.of_load hshown
  have hstaged' := h.staged'.of_load hshown
  have hreads : ReadTwins (fun tree tree' ↦ tree = scene.host.tree ∧ tree' = scene'.host.tree)
      (fun _ _ _ ↦ True) path scene.store.identityDir := by
    refine ⟨?_, ?_⟩
    · rintro _ _ ⟨rfl, rfl⟩
      exact h.hosts.tree.read (h.staged.goal path ▸ hshown)
    · refine fun file ↦ file.parallel_read_of_texts ?_
      rintro _ _ ⟨rfl, rfl⟩
      obtain ⟨text, htext⟩ := h.staged.readable file
      obtain ⟨text', htext'⟩ := h.staged'.readable file
      rw [h.staged.dir]
      exact ⟨text, text', trivial, htext, htext'⟩
  obtain ⟨hresult, hhosts⟩ := parallel_load h.stores.identityDir hreads scene.host scene'.host
    (h.hosts.mono fun _ ↦ ⟨rfl, rfl⟩)
  replace hhosts : Host.Twins (FileTree.Alike (Concealed identityDir start))
      (scene.store.load path scene.host).2 (scene'.store.load path scene'.host).2 :=
    hhosts.mono fun htrees ↦ by
      rw [htrees.1, htrees.2]
      exact h.hosts.tree
  revert hstaged hstaged'
  unfold Scene.adopt
  rcases hload : scene.store.load path scene.host with ⟨result, host⟩
  rcases hload' : scene'.store.load path scene'.host with ⟨result', host'⟩
  rw [hload, hload'] at hresult hhosts
  intro hstaged hstaged'
  cases hresult with
  | ok hstores => exact ⟨rfl, hstores, hhosts, hstaged, hstaged'⟩
  | error error => exact ⟨rfl, h.stores, hhosts, hstaged, hstaged'⟩

theorem Scene.Staged.keeps_save (h : scene.Staged identityDir start) (hfile : scene.store.file = some path) :
    FileTree.Keeps (fun location ↦ Concealed identityDir start location ∨ location = start.tree.goal path)
      scene.host.tree (scene.store.save scene.host).2.tree := by
  have hkeeps := Store.keeps_save hfile h.here h.quiet
  rwa [h.dir, h.goal] at hkeeps

theorem Scene.Staged.savedFiles (h : scene.Staged identityDir start) (hfile : scene.store.file = some path) :
    scene.store.SavedFiles path scene.host (scene.store.save scene.host).2
      (scene.store.save scene.host).1 := by
  refine savedFiles_save hfile (h.apart hfile) ?_
  rw [h.goal]
  exact (h.known path hfile).2

/-- What stands in the settings file behind a save that was done. -/
theorem Scene.Staged.saved (h : scene.Staged identityDir start) (hfile : scene.store.file = some path)
    (hdone : (scene.store.save scene.host).1 = .ok ()) :
    (scene.store.save scene.host).2.tree.fileAt? (start.tree.goal path) =
      some scene.store.settings.toText.toUTF8 := by
  rw [← h.goal]
  exact (h.savedFiles hfile).done hdone

/-- A save that failed left the settings file as it was. -/
theorem Scene.Staged.unsaved {error : StoreError} (h : scene.Staged identityDir start)
    (hfile : scene.store.file = some path) (hfailed : (scene.store.save scene.host).1 = .error error) :
    (scene.store.save scene.host).2.tree.fileAt? (start.tree.goal path) =
      scene.host.tree.fileAt? (start.tree.goal path) := by
  rw [← h.goal]
  exact (h.savedFiles hfile).failed error hfailed

/-- Writing leaves the scene staged. -/
theorem Scene.Staged.of_save (h : scene.Staged identityDir start) (hfile : scene.store.file = some path) :
    Scene.Staged identityDir start ⟨scene.store, (scene.store.save scene.host).2⟩ := by
  have hkeeps := h.keeps_save hfile
  have hsaved := h.savedFiles hfile
  refine ⟨h.dir, hkeeps.here.trans h.here, fun hstart ↦ ?_, h.dir ▸ hsaved.readable (h.dir ▸ h.readable), ?_⟩
  · exact ((touches_save hfile scene.host).quiet (h.quiet hstart)).1
  · intro other hother
    obtain rfl := Option.some.inj (hfile.symm.trans hother)
    obtain ⟨hshown, hthere⟩ := h.known path hfile
    refine ⟨hshown, ?_⟩
    cases hresult : (scene.store.save scene.host).1 with
    | ok _ =>
      rw [h.saved hfile hresult]
      rfl
    | error error =>
      rw [h.unsaved hfile hresult]
      exact hthere

/-- Writing goes alike, and leaves the scenes alike. -/
theorem Scene.Alike.save (h : scene.Alike identityDir start scene') (hfile : scene.store.file = some path) :
    (scene.store.save scene.host).1 = (scene'.store.save scene'.host).1 ∧
      Scene.Alike identityDir start ⟨scene.store, (scene.store.save scene.host).2⟩
        ⟨scene'.store, (scene'.store.save scene'.host).2⟩ := by
  have hfile' : scene'.store.file = some path := h.stores.file.symm.trans hfile
  obtain ⟨hresult, hhosts⟩ := parallel_save h.stores scene.host scene'.host
    (h.hosts.mono fun htrees ↦ htrees.outline)
  replace hresult := agree_eq_iff.1 hresult
  refine ⟨hresult, h.stores, hhosts.mono fun houtline ↦ ?_, h.staged.of_save hfile, h.staged'.of_save hfile'⟩
  refine h.hosts.tree.of_keeps (h.staged.keeps_save hfile) (h.staged'.keeps_save hfile') houtline ?_
  intro location hchanged hshown
  obtain rfl := hchanged.resolve_left hshown
  -- The settings file is the one place where what was written counts.
  cases hdone : (scene.store.save scene.host).1 with
  | ok _ => rw [h.staged.saved hfile hdone, h.staged'.saved hfile' (hresult ▸ hdone), h.stores.toText]
  | error error =>
    rw [h.staged.unsaved hfile hdone, h.staged'.unsaved hfile' (hresult ▸ hdone), h.hosts.tree.files _ hshown]

/-- One act goes alike, and leaves the scenes alike. -/
theorem Act.Alike.perform (hact : act.Alike identityDir start act') (h : scene.Alike identityDir start scene') :
    (act.perform scene).1 = (act'.perform scene').1 ∧
      (act.perform scene).2.Alike identityDir start (act'.perform scene').2 := by
  cases hact with
  | load path hshown => exact h.adopt_load hshown
  | reload =>
    have hother := h.stores.file
    unfold Act.perform
    cases hfile : scene.store.file with
    | none =>
      rw [hfile] at hother
      rw [Scene.adopt, Scene.adopt, reload_of_noFile hfile, reload_of_noFile hother.symm]
      exact ⟨rfl, h⟩
    | some path =>
      rw [hfile] at hother
      rw [reload_of_file hfile, reload_of_file hother.symm]
      exact h.adopt_load (h.staged.known path hfile).1
  | save =>
    have hother := h.stores.file
    unfold Act.perform
    cases hfile : scene.store.file with
    | none =>
      rw [hfile] at hother
      rw [save_of_noFile hfile, save_of_noFile hother.symm]
      exact ⟨rfl, h⟩
    | some path => exact h.save hfile
  | change edit edit' hedit =>
    refine ⟨rfl, ⟨h.stores.identityDir, h.stores.file, hedit _ _ h.stores.settings.anonymous, trivial, trivial⟩,
      h.hosts, ?_, ?_⟩
    · exact ⟨h.staged.dir, h.staged.here, h.staged.quiet, h.staged.readable, h.staged.known⟩
    · exact ⟨h.staged'.dir, h.staged'.here, h.staged'.quiet, h.staged'.readable, h.staged'.known⟩

/-! ## All turns -/

/-- What looks the same of two turns: how they end, what has been reported, which file the store knows, what
stands in it, and all other files but the concealed ones. -/
structure Turn.LooksLike (identityDir : Path) (start : Host) (turn other : Turn) : Prop where
  result : turn.result = other.result
  log : turn.after.host.log = other.after.host.log
  file : turn.after.store.file = other.after.store.file
  settings : turn.after.store.settings.anonymous = other.after.store.settings.anonymous
  written : ∀ path, turn.after.store.file = some path → ∃ content,
    turn.after.host.tree.fileAt? (start.tree.goal path) = some content ∧
      other.after.host.tree.fileAt? (start.tree.goal path) = some content
  files : turn.after.host.tree.Alike (Concealed identityDir start) other.after.host.tree

/-- Turns with the same result that lead to scenes that are alike look the same. -/
theorem Scene.Alike.looksLike {turn other : Turn} (hresult : turn.result = other.result)
    (h : turn.after.Alike identityDir start other.after) : turn.LooksLike identityDir start other := by
  refine ⟨hresult, h.hosts.log, h.stores.file, h.stores.settings.anonymous, fun path hfile ↦ ?_, h.hosts.tree⟩
  obtain ⟨hshown, hthere⟩ := h.staged.known path hfile
  obtain ⟨content, hcontent⟩ := Option.isSome_iff_exists.1 hthere
  exact ⟨content, hcontent, (h.hosts.tree.files _ hshown).symm.trans hcontent⟩

/-- Acts that are alike pair by pair lead to turns that look the same pair by pair. -/
theorem looksLike_turns {acts acts' : List Act} (hacts : List.Forall₂ (Act.Alike identityDir start) acts acts')
    (h : scene.Alike identityDir start scene') :
    List.Forall₂ (Turn.LooksLike identityDir start) (turns acts scene) (turns acts' scene') := by
  induction hacts generalizing scene scene' with
  | nil => exact .nil
  | cons hact _ ih =>
    obtain ⟨hresult, hafter⟩ := hact.perform h
    exact .cons (Scene.Alike.looksLike hresult hafter) (ih hafter)

/-- Where hosts differ in nothing but what their identity files say, and acts in nothing but the identity
that they give to the store, turn for turn the same results come out, the same is reported, and the same
bytes stand in the settings file. -/
theorem turns_conceal_identity (identityDir : Path) {start other : Host} {acts acts' : List Act}
    (hhosts : Host.Twins (FileTree.Alike fun location ↦
      ∃ file : IdentityFile, location = start.tree.goal (file.path identityDir)) start other)
    (hreadable : Readable identityDir start.tree) (hreadable' : Readable identityDir other.tree)
    (hacts : List.Forall₂ (Act.Alike identityDir start) acts acts') :
    List.Forall₂ (Turn.LooksLike identityDir start) (turns acts ⟨{ identityDir }, start⟩)
      (turns acts' ⟨{ identityDir }, other⟩) := by
  refine looksLike_turns hacts ⟨⟨rfl, rfl, rfl, trivial, trivial⟩, ?_, ?_, ?_⟩
  · exact hhosts.mono fun htrees ↦ htrees.mono fun _ ↦ .inl
  · exact ⟨rfl, rfl, fun h ↦ h, hreadable, nofun⟩
  · exact ⟨rfl, hhosts.tree.outline.here.symm, hhosts.undisturbed_iff.1, hreadable', nofun⟩

/-- A host with an identity, and with two settings files of which the second one makes no sense. Two calls
fail there: the one that would move a new secret to its place, and the one that would drop the draft of it. -/
def twoNamed (systemId secret : String) : Host where
  tree.root := .dir [("etc".toList, .dir [
    ("agent.yaml".toList, .file "cluster_id: east\n".toUTF8), ("broken.yaml".toList, .file "proxy: [\n".toUTF8),
    ("secret".toList, .file secret.toUTF8), ("system_id".toList, .file systemId.toUTF8)])]
  faults n := if n = 12 ∨ n = 13 then some .busy else none

/-- A store is read, given an identity and written, read again and written again. -/
def rekeying (systemId secret : String) : List Act :=
  [.load (.ofString "/etc/agent.yaml"), .change fun settings ↦ { settings with systemId, secret, debug := true },
    .save, .load (.ofString "/etc/broken.yaml"), .reload, .change fun settings ↦ { settings with proxy := true },
    .save]

/-- Between two such hosts nothing differs but the identity. -/
theorem twins_twoNamed (systemId systemId' secret secret' : String) :
    Host.Twins (FileTree.Alike fun location ↦ ∃ file : IdentityFile,
        location = (twoNamed systemId secret).tree.goal (file.path (.ofString "/etc")))
      (twoNamed systemId secret) (twoNamed systemId' secret') := by
  refine ⟨⟨rfl, fun location hshown ↦ ?_⟩, rfl, rfl, rfl⟩
  have hsecret : (twoNamed systemId secret).tree.Holds (IdentityFile.secret.path (.ofString "/etc"))
      secret.toUTF8 := FileTree.holds_of_read IdentityFile.secret.isEntryName_name rfl
  have hsystemId : (twoNamed systemId secret').tree.Holds (IdentityFile.systemId.path (.ofString "/etc"))
      systemId.toUTF8 := FileTree.holds_of_read IdentityFile.systemId.isEntryName_name rfl
  calc (twoNamed systemId secret).tree.fileAt? location
      = (twoNamed systemId secret').tree.fileAt? location :=
        ((hsecret.names.put hsecret.not_dirAt secret'.toUTF8).2.keeps.files location
          fun h ↦ hshown ⟨.secret, h⟩).symm
    _ = (twoNamed systemId' secret').tree.fileAt? location :=
        ((hsystemId.names.put hsystemId.not_dirAt systemId'.toUTF8).2.keeps.files location
          fun h ↦ hshown ⟨.systemId, h⟩).symm

/-- Agents with other names and other secrets leave the same settings file behind, turn for turn, though a
secret could not be written on the way. -/
theorem twoNamed_conceal_identity :
    let start := twoNamed "node-1\n" "s3cret\n"
    let other := twoNamed "agent-7" "hush"
    let acts := rekeying "node-2" "n3w"
    let acts' := rekeying "agent-8" "psst"
    Host.Twins (FileTree.Alike fun location ↦
        ∃ file : IdentityFile, location = start.tree.goal (file.path (.ofString "/etc"))) start other ∧
      Readable (.ofString "/etc") start.tree ∧ Readable (.ofString "/etc") other.tree ∧
      List.Forall₂ (Act.Alike (.ofString "/etc") start) acts acts' ∧
      List.Forall₂ (Turn.LooksLike (.ofString "/etc") start)
        (turns acts ⟨{ identityDir := .ofString "/etc" }, start⟩)
        (turns acts' ⟨{ identityDir := .ofString "/etc" }, other⟩) ∧
      (turns acts ⟨{ identityDir := .ofString "/etc" }, start⟩).map (·.result.isOk) =
        [true, true, false, false, true, true, true] := by
  intro start other acts acts'
  have hhosts := twins_twoNamed "node-1\n" "agent-7" "s3cret\n" "hush"
  have hreadable (systemId secret : String) : Readable (.ofString "/etc") (twoNamed systemId secret).tree := by
    rintro (_ | _)
    · exact ⟨systemId, rfl⟩
    · exact ⟨secret, rfl⟩
  have hload (name : Name) (hown : name ≠ "system_id".toList ∧ name ≠ "secret".toList)
      (hdraft : name.head? ≠ some '.') : ¬ Concealed (.ofString "/etc") start ["etc".toList, name] := by
    rintro (⟨_ | _, h⟩ | ⟨-, n, h⟩)
    · exact hown.1 (List.cons.inj (List.cons.inj h).2).1
    · exact hown.2 (List.cons.inj (List.cons.inj h).2).1
    · obtain rfl : name = Host.temporaryName n := Option.some.inj h
      exact hdraft rfl
  have hacts : List.Forall₂ (Act.Alike (.ofString "/etc") start) acts acts' := by
    refine .cons (.load _ ?_) (.cons (.change _ _ ?_) (.cons .save (.cons (.load _ ?_) (.cons .reload
      (.cons (.change _ _ ?_) (.cons .save .nil))))))
    · exact hload "agent.yaml".toList (by decide) (by decide)
    · intro settings settings' h
      exact congrArg (fun settings : Settings ↦ { settings with debug := true }) h
    · exact hload "broken.yaml".toList (by decide) (by decide)
    · intro settings settings' h
      exact congrArg (fun settings : Settings ↦ { settings with proxy := true }) h
  exact ⟨hhosts, hreadable _ _, hreadable _ _, hacts,
    turns_conceal_identity _ hhosts (hreadable _ _) (hreadable _ _) hacts, by decide +kernel⟩

end Store

end FleetAgent
