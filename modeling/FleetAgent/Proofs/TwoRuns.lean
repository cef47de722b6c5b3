import FleetAgent.Proofs.StoreReading
import FleetAgent.Proofs.TreeOutlines
import Mathlib.Data.List.Forall2

/-!
# Two runs side by side

Two activities run side by side, each in a state of its own. `Parallel S Q` says that from states in the
relation `S` they come to states in that relation, and give values in the relation `Q` or fail with the same
error; it passes from the single calls to what is put together of them. For hosts the relation is `Twins R`:
nothing differs but the trees, and these are in the relation `R`.
-/

namespace FleetAgent

/-- The results are values in the relation, or the same error. -/
inductive Agree {ε α β : Type} (Q : α → β → Prop) : Except ε α → Except ε β → Prop where
  | ok {value : α} {other : β} (h : Q value other) : Agree Q (.ok value) (.ok other)
  | error (error : ε) : Agree Q (.error error) (.error error)

theorem agree_eq_iff {ε α : Type} {result other : Except ε α} :
    Agree (· = ·) result other ↔ result = other := by
  constructor
  · rintro (rfl | _)
    · rfl
    · rfl
  · rintro rfl
    cases result with
    | ok value => exact .ok rfl
    | error error => exact .error error

/-- Results that look the same agree on what is seen of them. -/
theorem agree_of_map_eq {ε α β γ : Type} {f : α → γ} {g : β → γ} {result : Except ε α} {other : Except ε β}
    (h : result.map f = other.map g) : Agree (fun value value' ↦ f value = g value') result other := by
  cases result with
  | ok value =>
    cases other with
    | ok value' => exact .ok (Except.ok.inj h)
    | error error => cases h
  | error error =>
    cases other with
    | ok value' => cases h
    | error error' =>
      obtain rfl := Except.error.inj h
      exact .error error

theorem Agree.mono {ε α β : Type} {Q Q' : α → β → Prop} {result : Except ε α} {other : Except ε β}
    (h : Agree Q result other)
    (hQ : ∀ value value', result = .ok value → other = .ok value' → Q value value' → Q' value value') :
    Agree Q' result other := by
  cases h with
  | ok h => exact .ok (hQ _ _ rfl rfl h)
  | error error => exact .error error

/-- From states in the relation both activities come to states in the relation, and their results agree. -/
def Parallel {ε σ τ α β : Type} (S : σ → τ → Prop) (Q : α → β → Prop) (act : ExceptT ε (StateM σ) α)
    (other : ExceptT ε (StateM τ) β) : Prop :=
  ∀ state state', S state state' →
    Agree Q (act state).1 (other state').1 ∧ S (act state).2 (other state').2

namespace Parallel

variable {ε σ τ α β γ δ : Type} {S : σ → τ → Prop} {Q Q' : α → β → Prop} {P : γ → δ → Prop}

/-- Two activities in a row go alike when each of them does. -/
theorem bind {act : ExceptT ε (StateM σ) α} {other : ExceptT ε (StateM τ) β}
    {next : α → ExceptT ε (StateM σ) γ} {next' : β → ExceptT ε (StateM τ) δ} (h : Parallel S Q act other)
    (hnext : ∀ value value', Q value value' → Parallel S P (next value) (next' value')) :
    Parallel S P (act >>= next) (other >>= next') := by
  intro state state' hstate
  obtain ⟨hresult, hafter⟩ := h state state' hstate
  rw [bind_apply, bind_apply]
  rcases hrun : act state with ⟨result, after⟩
  rcases hrun' : other state' with ⟨result', after'⟩
  rw [hrun, hrun'] at hresult hafter
  cases hresult with
  | ok hvalue => exact hnext _ _ hvalue after after' hafter
  | error error => exact ⟨.error error, hafter⟩

theorem pure {value : α} {value' : β} (h : Q value value') :
    Parallel S Q (Pure.pure value : ExceptT ε (StateM σ) α) (Pure.pure value' : ExceptT ε (StateM τ) β) :=
  fun _ _ hstate ↦ ⟨.ok h, hstate⟩

theorem throw (error : ε) :
    Parallel S Q (MonadExcept.throw error : ExceptT ε (StateM σ) α)
      (MonadExcept.throw error : ExceptT ε (StateM τ) β) :=
  fun _ _ hstate ↦ ⟨.error error, hstate⟩

theorem mono {act : ExceptT ε (StateM σ) α} {other : ExceptT ε (StateM τ) β} (h : Parallel S Q act other)
    (hQ : ∀ value value', Q value value' → Q' value value') : Parallel S Q' act other := by
  intro state state' hstate
  obtain ⟨hresult, hafter⟩ := h state state' hstate
  exact ⟨hresult.mono fun value value' _ _ ↦ hQ value value', hafter⟩

end Parallel

namespace Host

/-- Nothing differs between the hosts but their trees, which are in the relation. -/
structure Twins (R : FileTree → FileTree → Prop) (host other : Host) : Prop where
  tree : R host.tree other.tree
  faults : host.faults = other.faults
  calls : host.calls = other.calls
  log : host.log = other.log

variable {ε ε' α β : Type} {R R' : FileTree → FileTree → Prop} {Q : α → β → Prop} {host other : Host}

theorem Twins.mono (h : Twins R host other) (hR : R host.tree other.tree → R' host.tree other.tree) :
    Twins R' host other :=
  ⟨hR h.tree, h.faults, h.calls, h.log⟩

/-- Hosts that differ in their trees alone are disturbed alike. -/
theorem Twins.undisturbed_iff (h : Twins R host other) : host.Undisturbed ↔ other.Undisturbed := by
  rw [Undisturbed, Undisturbed, h.faults, h.calls]

/-! ## Single calls -/

/-- A call goes alike when what it does to the trees agrees; a planted fault strikes both. -/
theorem parallel_call {act : FileTree → Except FileError (α × FileTree)}
    {act' : FileTree → Except FileError (β × FileTree)}
    (h : ∀ tree tree', R tree tree' →
      Agree (fun found found' ↦ Q found.1 found'.1 ∧ R found.2 found'.2) (act tree) (act' tree')) :
    Parallel (Twins R) Q (call act) (call act') := by
  intro host other hhosts
  have hagree := h host.tree other.tree hhosts.tree
  unfold call
  rw [← hhosts.faults, ← hhosts.calls]
  cases host.faults host.calls with
  | some fault => exact ⟨.error fault, hhosts.tree, rfl, rfl, hhosts.log⟩
  | none =>
    generalize act host.tree = result at hagree
    generalize act' other.tree = result' at hagree
    cases hagree with
    | ok hfound => exact ⟨.ok hfound.1, hfound.2, rfl, rfl, hhosts.log⟩
    | error fault => exact ⟨.error fault, hhosts.tree, rfl, rfl, hhosts.log⟩

theorem parallel_ask {see : FileTree → Except FileError α} {see' : FileTree → Except FileError β}
    (h : ∀ tree tree', R tree tree' → Agree Q (see tree) (see' tree')) :
    Parallel (Twins R) Q (ask see) (ask see') := by
  apply parallel_call
  intro tree tree' htrees
  have hagree := h tree tree' htrees
  generalize see tree = result at hagree
  generalize see' tree' = result' at hagree
  cases hagree with
  | ok hvalue => exact .ok ⟨hvalue, htrees⟩
  | error fault => exact .error fault

theorem parallel_alter {act act' : FileTree → Except FileError FileTree}
    (h : ∀ tree tree', R tree tree' → Agree R (act tree) (act' tree')) :
    Parallel (Twins R) (· = ·) (alter act) (alter act') := by
  apply parallel_call
  intro tree tree' htrees
  have hagree := h tree tree' htrees
  generalize act tree = result at hagree
  generalize act' tree' = result' at hagree
  cases hagree with
  | ok hlater => exact .ok ⟨rfl, hlater⟩
  | error fault => exact .error fault

theorem parallel_look {see : FileTree → α} {see' : FileTree → β}
    (h : ∀ tree tree', R tree tree' → Q (see tree) (see' tree')) :
    Parallel (Twins R) Q (look see : HostM ε α) (look see') :=
  fun host other hhosts ↦ ⟨.ok (h host.tree other.tree hhosts.tree), hhosts⟩

theorem parallel_report (event : Log.Event) :
    Parallel (Twins R) (· = ·) (report event : HostM ε Unit) (report event) :=
  fun _ _ hhosts ↦ ⟨.ok rfl, hhosts.tree, hhosts.faults, hhosts.calls, congrArg (event :: ·) hhosts.log⟩

theorem parallel_mapError (f : ε → ε') {act : HostM ε α} {act' : HostM ε β} (h : Parallel (Twins R) Q act act') :
    Parallel (Twins R) Q (mapError f act) (mapError f act') := by
  intro host other hhosts
  obtain ⟨hresult, hafter⟩ := h host other hhosts
  unfold mapError
  rcases hrun : act host with ⟨result, after⟩
  rcases hrun' : act' other with ⟨result', after'⟩
  rw [hrun, hrun'] at hresult hafter
  cases hresult with
  | ok hvalue => exact ⟨.ok hvalue, hafter⟩
  | error error => exact ⟨.error (f error), hafter⟩

theorem parallel_outcome {act : HostM ε α} {act' : HostM ε β} (h : Parallel (Twins R) Q act act') :
    Parallel (Twins R) (Agree Q) (outcome act : HostM ε' _) (outcome act') := by
  intro host other hhosts
  obtain ⟨hresult, hafter⟩ := h host other hhosts
  exact ⟨.ok hresult, hafter⟩

/-! ## What is put together of calls -/

/-- A directory is made alike where the trees have the same outlines. -/
theorem parallel_makeDirsUnder (hR : ∀ tree tree', R tree tree' → tree.SameOutline tree')
    (hmake : ∀ path, Parallel (Twins R) (· = ·) (alter (·.makeDir path)) (alter (·.makeDir path)))
    (parents : List Path) (path : Path) :
    Parallel (Twins R) (· = ·) (makeDirsUnder parents path) (makeDirsUnder parents path) := by
  apply makeDirsUnder_of_steps (P := fun act ↦ Parallel (Twins R) (· = ·) act act)
  case hdone => exact .pure rfl
  case hthrow => exact fun fault ↦ .throw fault
  case hlook =>
    intro path next hnext
    refine (parallel_look fun tree tree' htrees ↦ (hR tree tree' htrees).isDir path).bind ?_
    rintro isDir _ rfl
    exact hnext isDir
  case hmake =>
    intro made _ next hnext
    refine (parallel_outcome (hmake made)).bind fun result result' hresult ↦ ?_
    rw [← agree_eq_iff.1 hresult]
    exact hnext result
  case hthen => exact fun act next hact hnext ↦ hact.bind fun _ _ _ ↦ hnext

/-- Directories are made alike on trees of one outline. -/
theorem parallel_makeDirs (hR : ∀ tree tree', R tree tree' → tree.SameOutline tree')
    (hmake : ∀ path, Parallel (Twins R) (· = ·) (alter (·.makeDir path)) (alter (·.makeDir path))) (path : Path) :
    Parallel (Twins R) (· = ·) (makeDirs path) (makeDirs path) :=
  parallel_makeDirsUnder hR hmake _ path

/-- Texts in files are read alike where the files are. -/
theorem parallel_readText {path : Path} (h : ∀ tree tree', R tree tree' → tree.read path = tree'.read path) :
    Parallel (Twins R) (· = ·) (readText path) (readText path) := by
  have hask : Parallel (Twins R) (· = ·) (ask (·.read path)) (ask (·.read path)) :=
    parallel_ask fun tree tree' htrees ↦ agree_eq_iff.2 (h tree tree' htrees)
  refine hask.bind ?_
  rintro bytes _ rfl
  cases String.fromUTF8? bytes with
  | none => exact .throw _
  | some text => exact .pure rfl

/-- Some texts are read where there are texts in both files. -/
theorem parallel_readText_of_texts {path : Path} {Q : String → String → Prop}
    (h : ∀ tree tree', R tree tree' → ∃ text text' : String, Q text text' ∧
      tree.read path = .ok text.toUTF8 ∧ tree'.read path = .ok text'.toUTF8) :
    Parallel (Twins R) Q (readText path) (readText path) := by
  have hask : Parallel (Twins R) (fun bytes bytes' ↦ ∃ text text' : String, Q text text' ∧
      bytes = text.toUTF8 ∧ bytes' = text'.toUTF8) (ask (·.read path)) (ask (·.read path)) := by
    refine parallel_ask fun tree tree' htrees ↦ ?_
    obtain ⟨text, text', htexts, hread, hread'⟩ := h tree tree' htrees
    rw [hread, hread']
    exact .ok ⟨text, text', htexts, rfl, rfl⟩
  refine hask.bind ?_
  rintro _ _ ⟨text, text', htexts, rfl, rfl⟩
  rw [fromUTF8?_toUTF8, fromUTF8?_toUTF8]
  exact .pure htexts

/-! ## Replacing files -/

/-- A call that does to the outline what it does to the tree comes to trees with the same outline again. -/
theorem agree_of_outline (act : FileTree → Except FileError FileTree) {tree tree' : FileTree}
    (hact : ∀ tree, act tree.outline = (act tree).map FileTree.outline) (h : tree.SameOutline tree') :
    Agree FileTree.SameOutline (act tree) (act tree') := by
  apply agree_of_map_eq
  rw [← hact, h, hact]

/-- A call that looks only at the outline goes alike. -/
theorem parallel_alter_of_outline {act : FileTree → Except FileError FileTree}
    (hact : ∀ tree, act tree.outline = (act tree).map FileTree.outline) :
    Parallel (Twins FileTree.SameOutline) (· = ·) (alter act) (alter act) :=
  parallel_alter fun _ _ htrees ↦ agree_of_outline act hact htrees

/-- Whatever goes into the file, filling and moving it goes alike. -/
theorem parallel_fillAndMove (fresh path : Path) (content content' : ByteArray) :
    Parallel (Twins FileTree.SameOutline) (· = ·) (fillAndMove fresh path content)
      (fillAndMove fresh path content') := by
  have hfill : Parallel (Twins FileTree.SameOutline) (· = ·)
      (alter fun tree ↦ do return tree.append (← tree.locate fresh) content)
      (alter fun tree ↦ do return tree.append (← tree.locate fresh) content') := by
    refine parallel_alter fun tree tree' htrees ↦ ?_
    rw [htrees.locate]
    cases tree'.locate fresh with
    | error fault => exact .error fault
    | ok location =>
      have happend : (tree.append location content).outline = (tree'.append location content').outline := by
        rw [FileTree.outline_append, htrees, FileTree.outline_append]
      exact .ok happend
  unfold fillAndMove
  refine hfill.bind fun _ _ _ ↦ ?_
  refine (parallel_alter_of_outline fun _ ↦ rfl).bind fun _ _ _ ↦ ?_
  exact parallel_alter_of_outline fun tree ↦ tree.rename_outline fresh path

/-- Whatever goes into the file, replacing it goes alike. -/
theorem parallel_replaceFile (path : Path) (content content' : ByteArray) :
    Parallel (Twins FileTree.SameOutline) (· = ·) (replaceFile path content) (replaceFile path content') := by
  unfold replaceFile
  refine (parallel_makeDirs (fun _ _ h ↦ h)
    (fun path ↦ parallel_alter_of_outline fun tree ↦ tree.makeDir_outline path) _).bind fun _ _ _ ↦ ?_
  refine (parallel_look fun tree tree' htrees ↦ ?_ : Parallel _ (· = ·) _ _).bind ?_
  · rw [← tree.freshPath?_outline, htrees, tree'.freshPath?_outline]
  rintro fresh? _ rfl
  cases fresh? with
  | none => exact .throw FileError.alreadyExists
  | some fresh =>
    refine (parallel_alter_of_outline fun tree ↦ tree.createNew_outline fresh).bind fun _ _ _ ↦ ?_
    refine (parallel_outcome (parallel_fillAndMove fresh path content content')).bind fun result result' hresult ↦ ?_
    rw [← agree_eq_iff.1 hresult]
    cases result with
    | ok _ => exact .pure rfl
    | error fault =>
      refine (parallel_outcome (parallel_alter_of_outline fun tree ↦ tree.remove_outline fresh)).bind fun _ _ _ ↦ ?_
      exact .throw fault

end Host

/-! ## Reading settings -/

/-- The settings without the identity. -/
def Settings.anonymous (settings : Settings) : Settings := { settings with systemId := "", secret := "" }

/-- Nothing differs between the settings but the identities, and these are in the relation. -/
structure Settings.Twins (Q : IdentityFile → String → String → Prop) (settings other : Settings) : Prop where
  anonymous : settings.anonymous = other.anonymous
  systemId : Q .systemId settings.systemId other.systemId
  secret : Q .secret settings.secret other.secret

namespace IdentityFile

variable {R : FileTree → FileTree → Prop} {Q : String → String → Prop} (file : IdentityFile) {directory : Path}

theorem parallel_read (h : ∀ tree tree', R tree tree' →
      tree.read (file.path directory) = tree'.read (file.path directory)) :
    Parallel (Host.Twins R) (· = ·) (file.read directory) (file.read directory) :=
  (Host.parallel_mapError _ (Host.parallel_readText h)).bind fun _ _ htexts ↦ .pure (congrArg Text.strip htexts)

theorem parallel_read_of_texts (h : ∀ tree tree', R tree tree' → ∃ text text' : String,
      Q (Text.strip text) (Text.strip text') ∧ tree.read (file.path directory) = .ok text.toUTF8 ∧
        tree'.read (file.path directory) = .ok text'.toUTF8) :
    Parallel (Host.Twins R) Q (file.read directory) (file.read directory) :=
  (Host.parallel_mapError _ (Host.parallel_readText_of_texts h)).bind fun _ _ htexts ↦ .pure htexts

end IdentityFile

namespace Store

/-- Nothing differs between the stores but the identities, and these are in the relation. -/
structure Twins (Q : IdentityFile → String → String → Prop) (store other : Store) : Prop where
  identityDir : store.identityDir = other.identityDir
  file : store.file = other.file
  settings : store.settings.Twins Q other.settings

variable {R : FileTree → FileTree → Prop} {Q : IdentityFile → String → String → Prop} {path identityDir : Path}

/-- The same settings are read from both trees, and identities in the relation. -/
structure ReadTwins (R : FileTree → FileTree → Prop) (Q : IdentityFile → String → String → Prop)
    (path identityDir : Path) : Prop where
  settings : ∀ tree tree', R tree tree' → tree.read path = tree'.read path
  identity : ∀ file : IdentityFile,
    Parallel (Host.Twins R) (Q file) (file.read identityDir) (file.read identityDir)

/-- The settings are read alike when the settings files are the same and identities are read alike. -/
theorem parallel_readSettings (h : ReadTwins R Q path identityDir) :
    Parallel (Host.Twins R) (Settings.Twins Q) (readSettings path identityDir) (readSettings path identityDir) := by
  unfold readSettings
  refine (Host.parallel_mapError _ (Host.parallel_readText h.settings)).bind ?_
  rintro text _ rfl
  refine Parallel.bind (Q := (· = ·)) ?_ ?_
  · cases (parse text).mapError (.unparsed path) >>= checked with
    | error error => exact .throw error
    | ok said => exact .pure rfl
  rintro said _ rfl
  refine (Host.parallel_mapError _ (h.identity .systemId)).bind fun systemId systemId' hsystemId ↦ ?_
  refine (Host.parallel_mapError _ (h.identity .secret)).bind fun secret secret' hsecret ↦ ?_
  exact .pure ⟨rfl, hsystemId, hsecret⟩

/-- The report does not tell the identity. -/
theorem loaded_anonymous (path : Path) (settings : Settings) :
    loaded path settings.anonymous = loaded path settings := rfl

/-- Loading goes alike when reading does. -/
theorem parallel_load {store other : Store} (hdir : store.identityDir = other.identityDir)
    (h : ReadTwins R Q path store.identityDir) :
    Parallel (Host.Twins R) (Twins Q) (store.load path) (other.load path) := by
  unfold load
  rw [← hdir]
  refine (parallel_readSettings h).bind fun settings settings' hsettings ↦ ?_
  rw [← loaded_anonymous path settings, hsettings.anonymous, loaded_anonymous]
  exact (Host.parallel_report (loaded path settings')).bind fun _ _ _ ↦ .pure ⟨rfl, rfl, hsettings⟩

end Store

end FleetAgent
