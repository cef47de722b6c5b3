import FleetAgent.Proofs.QuietHost
import FleetAgent.Settings.Store

/-!
# What the files of a store say

Reading settings goes from call to call that only ask, so a relation that every such call respects is
respected by the whole. What comes out is what the files say: the text of the settings file, read as
settings without half a key pair, and the values in the identity files.
-/

namespace FleetAgent

namespace Host

variable {R : Host → Host → Prop} {host after : Host} {tree : FileTree} {path : Path}

theorem tree_ask (see : FileTree → Except FileError α) (host : Host) : (ask see host).2.tree = host.tree := by
  unfold ask call
  cases host.faults host.calls with
  | some fault => rfl
  | none => cases hsee : see host.tree <;> simp [hsee, Except.map]

theorem ask_eq_ok {see : FileTree → Except FileError α} {value : α}
    (h : ask see host = (.ok value, after)) : see host.tree = .ok value ∧ after.tree = host.tree := by
  have htree := tree_ask see host
  rw [h] at htree
  refine ⟨?_, htree⟩
  unfold ask call at h
  cases hfault : host.faults host.calls with
  | some fault =>
    rw [hfault] at h
    cases h
  | none =>
    cases hsee : see host.tree with
    | error fault =>
      simp only [hfault, hsee, Except.map] at h
      cases h
    | ok found =>
      simp only [hfault, hsee, Except.map] at h
      exact (Prod.mk.inj h).1

theorem eq_toUTF8_of_fromUTF8? {bytes : ByteArray} {text : String} (h : String.fromUTF8? bytes = some text) :
    bytes = text.toUTF8 := by
  unfold String.fromUTF8? at h
  split at h
  · obtain rfl := Option.some.inj h
    rfl
  · cases h

/-- A text that was read is what the file holds. -/
theorem readText_eq_ok {text : String} (h : readText path host = (.ok text, after)) :
    host.tree.read path = .ok text.toUTF8 ∧ after.tree = host.tree := by
  obtain ⟨bytes, asked, hasked, h⟩ := bind_eq_ok h
  obtain ⟨hread, htree⟩ := ask_eq_ok hasked
  cases hfound : String.fromUTF8? bytes with
  | none =>
    rw [hfound] at h
    cases h
  | some found =>
    rw [hfound] at h
    obtain ⟨hvalue, rfl⟩ := Prod.mk.inj h
    obtain rfl := Except.ok.inj hvalue
    rw [hread, ← eq_toUTF8_of_fromUTF8? hfound]
    exact ⟨rfl, htree⟩

section

variable [Std.Refl R] [IsTrans Host R]

theorem leads_readText (hask : ∀ path, Leads R (ask (·.read path))) (path : Path) :
    Leads R (readText path) := by
  refine (hask path).bind fun bytes ↦ ?_
  cases String.fromUTF8? bytes with
  | none => exact .throw _
  | some text => exact .pure text

theorem leads_readIdentity (hask : ∀ path, Leads R (ask (·.read path))) (file : IdentityFile)
    (directory : Path) : Leads R (file.read directory) :=
  (leads_mapError _ (leads_readText hask _)).bind fun _ ↦ .pure _

/-- Of reading the settings only the reading of files has to be looked at. -/
theorem leads_readSettings (hask : ∀ path, Leads R (ask (·.read path))) (path identityDir : Path) :
    Leads R (Store.readSettings path identityDir) := by
  refine (leads_mapError _ (leads_readText hask _)).bind fun text ↦ Leads.bind ?_ fun settings ↦ ?_
  · cases (Store.parse text).mapError (.unparsed path) >>= Store.checked with
    | error error => exact .throw error
    | ok settings => exact .pure settings
  · refine (leads_mapError _ (leads_readIdentity hask _ _)).bind fun systemId ↦ ?_
    exact (leads_mapError _ (leads_readIdentity hask _ _)).bind fun secret ↦ .pure _

theorem leads_load (hask : ∀ path, Leads R (ask (·.read path)))
    (hreport : ∀ path settings, Leads R (report (Store.loaded path settings) : HostM StoreError Unit))
    (store : Store) (path : Path) : Leads R (store.load path) :=
  (leads_readSettings hask _ _).bind fun settings ↦ (hreport path settings).bind fun _ ↦ .pure _

end

end Host

namespace IdentityFile

variable {file : IdentityFile} {directory : Path} {value : String} {host after : Host}

/-- A value of the identity is the text of its file without the blanks around it. -/
theorem read_eq_ok (h : file.read directory host = (.ok value, after)) :
    ∃ text : String, host.tree.read (file.path directory) = .ok text.toUTF8 ∧ value = Text.strip text ∧
      after.tree = host.tree := by
  obtain ⟨text, read, hread, h⟩ := bind_eq_ok h
  obtain ⟨hvalue, rfl⟩ := Prod.mk.inj h
  obtain ⟨htext, htree⟩ := Host.readText_eq_ok (Host.mapError_eq_ok hread)
  exact ⟨text, htext, (Except.ok.inj hvalue).symm, htree⟩

theorem yields_read {tree : FileTree} (hread : tree.read (file.path directory) = .ok value.toUTF8) :
    Host.Yields (file.read directory) tree (Text.strip value) tree :=
  ((Host.Yields.readText hread).mapError _).bind (.pure _ tree)

end IdentityFile

namespace Store

variable {store loaded : Store} {path identityDir : Path} {tree : FileTree} {settings : Settings}
  {host after : Host}

theorem ofExcept_eq_ok {result : Except StoreError α} {value : α}
    (h : (MonadExcept.ofExcept result : HostM StoreError α) host = (.ok value, after)) :
    result = .ok value ∧ after = host := by
  cases result with
  | error fault => cases h
  | ok found => exact ⟨(Prod.mk.inj h).1, (Prod.mk.inj h).2.symm⟩

/-- Settings that pass are given as they are, and have no half pair. -/
theorem checked_eq_ok {said : Settings} (h : checked said = .ok settings) :
    settings = said ∧ said.halfPair? = none := by
  unfold checked at h
  cases hhalf : said.halfPair? with
  | some part =>
    rw [hhalf] at h
    cases h
  | none =>
    rw [hhalf] at h
    exact ⟨(Except.ok.inj h).symm, rfl⟩

/-- The settings file and the files in the identity's directory say these settings. -/
def Says (path identityDir : Path) (tree : FileTree) (settings : Settings) : Prop :=
  ∃ (text systemId secret : String) (said : Settings),
    tree.read path = .ok text.toUTF8 ∧ parse text = .ok said ∧ said.halfPair? = none ∧
      tree.read (IdentityFile.systemId.path identityDir) = .ok systemId.toUTF8 ∧
      tree.read (IdentityFile.secret.path identityDir) = .ok secret.toUTF8 ∧
      settings =
        { said with base := identityDir, systemId := Text.strip systemId, secret := Text.strip secret }

/-- The files say no two settings at once. -/
theorem Says.unique {other : Settings} (h : Says path identityDir tree settings)
    (h' : Says path identityDir tree other) : settings = other := by
  obtain ⟨text, systemId, secret, said, htext, hparse, -, hsystemId, hsecret, rfl⟩ := h
  obtain ⟨text', systemId', secret', said', htext', hparse', -, hsystemId', hsecret', rfl⟩ := h'
  have hsame {path : Path} {first second : String} (h : tree.read path = .ok first.toUTF8)
      (h' : tree.read path = .ok second.toUTF8) : first = second :=
    String.toByteArray_inj.1 (Except.ok.inj (h.symm.trans h'))
  obtain rfl := hsame htext htext'
  obtain rfl := hsame hsystemId hsystemId'
  obtain rfl := hsame hsecret hsecret'
  obtain rfl := Except.ok.inj (hparse.symm.trans hparse')
  rfl

/-- What has been read is what the files say. -/
theorem says_of_readSettings (h : readSettings path identityDir host = (.ok settings, after)) :
    Says path identityDir host.tree settings := by
  obtain ⟨text, opened, hopen, h⟩ := bind_eq_ok h
  obtain ⟨said, passed, hsaid, h⟩ := bind_eq_ok h
  obtain ⟨systemId, named, hname, h⟩ := bind_eq_ok h
  obtain ⟨secret, shared, hshare, h⟩ := bind_eq_ok h
  obtain ⟨hsettings, -⟩ := Prod.mk.inj h
  obtain ⟨htext, hopened⟩ := Host.readText_eq_ok (Host.mapError_eq_ok hopen)
  obtain ⟨hpassed, rfl⟩ := ofExcept_eq_ok hsaid
  obtain ⟨first, hfirst, rfl, hnamed⟩ := IdentityFile.read_eq_ok (Host.mapError_eq_ok hname)
  obtain ⟨second, hsecond, rfl, -⟩ := IdentityFile.read_eq_ok (Host.mapError_eq_ok hshare)
  rw [hnamed, hopened] at hsecond
  rw [hopened] at hfirst
  cases hparse : parse text with
  | error fault =>
    rw [hparse] at hpassed
    cases hpassed
  | ok parsed =>
    rw [hparse] at hpassed
    obtain ⟨rfl, hwhole⟩ := checked_eq_ok hpassed
    exact ⟨text, first, second, said, htext, hparse, hwhole, hfirst, hsecond, (Except.ok.inj hsettings).symm⟩

/-- What the files say can be read. -/
theorem Says.yields_readSettings (h : Says path identityDir tree settings) :
    Host.Yields (readSettings path identityDir) tree settings tree := by
  obtain ⟨text, systemId, secret, said, htext, hparse, hwhole, hsystemId, hsecret, rfl⟩ := h
  have hchecked : ((parse text).mapError (StoreError.unparsed path) >>= checked) = .ok said := by
    rw [hparse]
    change checked said = .ok said
    rw [checked, hwhole]
  unfold readSettings
  refine ((Host.Yields.readText htext).mapError _).bind ?_
  rw [hchecked]
  refine (Host.Yields.pure said tree).bind ?_
  refine ((IdentityFile.yields_read hsystemId).mapError _).bind ?_
  exact ((IdentityFile.yields_read hsecret).mapError _).bind (.pure _ tree)

/-! ## Loading -/

theorem getFile_of_file (hfile : store.file = some path) : store.getFile = pure path := by
  unfold getFile
  rw [hfile]

/-- Reading the file of the store again is reading its path. -/
theorem reload_of_file (hfile : store.file = some path) : store.reload = store.load path := by
  unfold reload
  rw [getFile_of_file hfile, pure_bind]

/-- A store that was loaded has what the files say, and knows its file. -/
theorem load_eq_ok (h : store.load path host = (.ok loaded, after)) :
    ∃ settings, Says path store.identityDir host.tree settings ∧
      loaded = { store with settings, file := some path } := by
  obtain ⟨settings, read, hread, h⟩ := bind_eq_ok h
  obtain ⟨_, _, -, h⟩ := bind_eq_ok h
  obtain ⟨hstore, -⟩ := Prod.mk.inj h
  exact ⟨settings, says_of_readSettings hread, (Except.ok.inj hstore).symm⟩

theorem Says.yields_load (h : Says path store.identityDir tree settings) :
    Host.Yields (store.load path) tree { store with settings, file := some path } tree :=
  h.yields_readSettings.bind ((Host.Yields.report _ tree).bind (.pure _ tree))

end Store

end FleetAgent
