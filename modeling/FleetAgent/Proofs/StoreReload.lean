import FleetAgent.Proofs.SheetReading
import FleetAgent.Proofs.StoreFiles
import Mathlib.Data.List.DropRight

/-!
# A store that is written and read again

What a store has written comes back when its files are read again: the settings as they were, with the
identity stripped of the blanks around it, unless they hold half a key pair. Settings that were read from
files come back as they are.
-/

namespace FleetAgent

namespace Text

theorem stripChars_stripChars (chars : List Char) : stripChars (stripChars chars) = stripChars chars := by
  have hchars (chars : List Char) :
      stripChars chars = (chars.dropWhile isBlank).rdropWhile isBlank := rfl
  have hfront : (stripChars chars).dropWhile isBlank = stripChars chars := by
    rw [hchars, List.dropWhile_eq_self_iff]
    intro hlength
    have hbegin := List.rdropWhile_prefix isBlank (chars.dropWhile isBlank)
    rw [hbegin.getElem hlength]
    exact List.dropWhile_eq_self_iff.1 (List.dropWhile_idempotent isBlank chars) _
  rw [hchars (stripChars chars), hfront, hchars, List.rdropWhile_idempotent]

theorem strip_strip (text : String) : strip (strip text) = strip text := by
  rw [strip, strip_toList, stripChars_stripChars, ← strip]

end Text

namespace Store

variable {store : Store} {host after : Host}

/-- The store as it comes out of its own files. -/
def reread (store : Store) : Store :=
  { store with
    settings :=
      { store.settings with
        base := store.identityDir
        systemId := Text.strip store.settings.systemId
        secret := Text.strip store.settings.secret } }

/-- The first key of a settings file is always there. -/
theorem parse_toText (settings : Settings) : parse settings.toText = Settings.ofText settings.toText := by
  obtain ⟨rest, hsheet⟩ :
      ∃ rest, settings.toSheet = ("controllers", .list settings.controllers) :: rest := by
    unfold Settings.toSheet
    simp only [List.append_assoc, List.singleton_append]
    exact ⟨_, rfl⟩
  have hkey : settings.toText.toList.head? = some 'c' := by
    rw [Settings.toText, hsheet, Yaml.Sheet.text, String.toList_ofList, List.flatMap_cons]
    simp
  have hshown : Text.isBlankText settings.toText = false := by
    unfold Text.isBlankText
    cases htext : settings.toText.toList with
    | nil => simp [htext] at hkey
    | cons c rest =>
      rw [htext, List.head?_cons, Option.some.injEq] at hkey
      subst hkey
      have hletter : Text.isBlank 'c' = false := by decide
      rw [List.all_cons, hletter, Bool.false_and]
  rw [parse, hshown, if_neg Bool.false_ne_true]

/-- The files can be read, and hold what the store was written as. -/
structure Saved (store : Store) (path : Path) (tree : FileTree) : Prop where
  systemId : tree.read (IdentityFile.systemId.path store.identityDir) = .ok store.settings.systemId.toUTF8
  secret : tree.read (IdentityFile.secret.path store.identityDir) = .ok store.settings.secret.toUTF8
  settings : tree.read path = .ok store.settings.toText.toUTF8

/-- Directories are still there, and the files of the store as they were. -/
def Untouched (store : Store) (path : Path) (tree later : FileTree) : Prop :=
  FileTree.Keeps (fun location ↦ ∀ write ∈ store.writes path, location ≠ tree.goal write.1) tree later

/-- What was saved can be found in the files as long as they are left alone. -/
theorem saved_of_save {path : Path} {later : FileTree} (hfile : store.file = some path)
    (hapart : store.SettingsApart path host.tree) (hsave : store.save host = (.ok (), after))
    (hlater : store.Untouched path after.tree later) : store.Saved path later := by
  obtain ⟨-, done, -, hwritten, hall⟩ := save_inOrder hfile host hapart.apart
  rw [hsave] at hwritten hall
  obtain rfl : done = store.writes path := hall.1 ⟨(), rfl⟩
  have hread : ∀ write ∈ store.writes path, later.read write.1 = .ok write.2 := fun write hwrite ↦
    (hlater.holds (hwritten.holds write hwrite) fun hchanged ↦ hchanged write hwrite rfl).read
  simp only [writes, List.forall_mem_cons] at hread
  obtain ⟨hsystemId, hsecret, hsettings, -⟩ := hread
  exact ⟨hsystemId, hsecret, hsettings⟩

section

variable {path : Path} {tree : FileTree}

theorem checked_parse (path : Path) {settings : Settings} (hyaml : settings.toSheet.ReadsBack) :
    (parse settings.toText).mapError (StoreError.unparsed path) >>= checked =
      match settings.halfPair? with
      | some part => .error (.halfPair part)
      | none => .ok settings.impersonal := by
  rw [parse_toText, Settings.ofText_toText hyaml]
  rfl

/-- Settings with half a pair are refused when they are read, wherever the identity is. -/
theorem fails_readSettings {settings : Settings} (hread : tree.read path = .ok settings.toText.toUTF8)
    (hyaml : settings.toSheet.ReadsBack) {part : Section} (hhalf : settings.halfPair? = some part)
    (identityDir : Path) : Host.Fails (readSettings path identityDir) tree (.halfPair part) tree := by
  have hchecked := checked_parse path hyaml
  rw [hhalf] at hchecked
  unfold readSettings
  refine .after (.bind ?_) ((Host.Yields.readText hread).mapError _)
  rw [hchecked]
  exact .throw _ tree

/-- A store with half a key pair can be saved, but what was saved cannot be loaded. -/
theorem Saved.load_halfPair (h : store.Saved path tree) (hyaml : store.settings.toSheet.ReadsBack)
    (hhost : host.RestsOn tree) {part : Section} (hhalf : store.settings.halfPair? = some part) :
    (store.load path host).1 = .error (.halfPair part) := by
  obtain ⟨after, hload, -⟩ := (fails_readSettings h.settings hyaml hhalf store.identityDir).bind host hhost
  rw [load, hload]

/-- Of all other settings the files say the same again, with the identity stripped. -/
theorem says_of_saved (h : store.Saved path tree) (hyaml : store.settings.toSheet.ReadsBack)
    (hwhole : store.settings.halfPair? = none) : Says path store.identityDir tree store.reread.settings :=
  ⟨_, _, _, store.settings.impersonal, h.settings,
    (parse_toText store.settings).trans (Settings.ofText_toText hyaml), hwhole, h.systemId, h.secret, rfl⟩

/-- What was saved is loaded as the same store, apart from blanks around the identity. -/
theorem Saved.yields_load (h : store.Saved path tree) (hyaml : store.settings.toSheet.ReadsBack)
    (hfile : store.file = some path) (hwhole : store.settings.halfPair? = none) :
    Host.Yields (store.load path) tree store.reread tree := by
  have hstore : { store with settings := store.reread.settings, file := some path } = store.reread := by
    rw [← hfile]
    rfl
  rw [← hstore]
  exact (says_of_saved h hyaml hwhole).yields_load

end

/-- What was read from files has no half pair, and is stripped already. -/
theorem reread_of_load {before : Store} {path : Path} (h : before.load path host = (.ok store, after)) :
    store.settings.halfPair? = none ∧ store.reread = store := by
  obtain ⟨settings, ⟨text, systemId, secret, said, -, -, hwhole, -, -, rfl⟩, rfl⟩ := load_eq_ok h
  refine ⟨hwhole, ?_⟩
  rw [reread]
  simp only [Text.strip_strip]

/-- A store that was saved, and whose files nobody touched, is read again as it was but for the blanks
around the identity. Only half a pair in the settings stands against that. A store that was read from
files is read again just as it was. -/
theorem save_reload {path : Path} {later : Host} (hfile : store.file = some path)
    (hyaml : store.settings.toSheet.ReadsBack) (hapart : store.SettingsApart path host.tree)
    (hsave : store.save host = (.ok (), after)) (huntouched : store.Untouched path after.tree later.tree)
    (hundisturbed : later.Undisturbed) :
    (∀ part, store.settings.halfPair? = some part → (store.reload later).1 = .error (.halfPair part)) ∧
      (store.settings.halfPair? = none → (store.reload later).1 = .ok store.reread) ∧
      ∀ (before : Store) (read : Path) (begun : Host),
        (before.load read begun).1 = .ok store → (store.reload later).1 = .ok store := by
  have hsaved := saved_of_save hfile hapart hsave huntouched
  have hhost := Host.RestsOn.of_undisturbed hundisturbed
  have hload (hwhole : store.settings.halfPair? = none) : (store.load path later).1 = .ok store.reread := by
    obtain ⟨again, hagain, -⟩ := hsaved.yields_load hyaml hfile hwhole later hhost
    rw [hagain]
  rw [reload_of_file hfile]
  refine ⟨fun part hhalf ↦ hsaved.load_halfPair hyaml hhost hhalf, hload, fun before read begun hbegun ↦ ?_⟩
  obtain ⟨hwhole, hreread⟩ := reread_of_load (Prod.ext hbegun rfl)
  rw [hload hwhole, hreread]

theorem eq_ok_of_isOk {result : Except StoreError Unit} (h : result.isOk = true) : result = .ok () := by
  cases result with
  | error error => cases h
  | ok done => rfl

def padded : Store where
  identityDir := .ofString "/etc/fleet"
  settings := { controllers := ["10.0.0.1", "yes"], systemId := " node-1\n", secret := "s3cret\n" }
  file := some (.ofString "/etc/fleet/agent.yaml")

/-- Once saved where there are no files the store is read again without the blanks. -/
theorem padded_save_reload :
    padded.settings.toSheet.ReadsBack ∧ padded.SettingsApart (.ofString "/etc/fleet/agent.yaml") {} ∧
      (padded.save { tree := {} }).1 = .ok () ∧
      (padded.reload { tree := (padded.save { tree := {} }).2.tree }).1 = .ok padded.reread ∧
      padded.reread.settings.systemId = "node-1" := by
  have hyaml : padded.settings.toSheet.ReadsBack := by decide +kernel
  have hapart : padded.SettingsApart (.ofString "/etc/fleet/agent.yaml") {} := by
    rintro (_ | _) <;> decide
  have hsave : (padded.save { tree := {} }).1 = .ok () := eq_ok_of_isOk (by decide +kernel)
  let later : Host := { tree := (padded.save { tree := {} }).2.tree }
  have huntouched : padded.Untouched (.ofString "/etc/fleet/agent.yaml") later.tree later.tree := .refl _ _
  have hundisturbed : later.Undisturbed := fun _ _ ↦ rfl
  obtain ⟨-, hreload, -⟩ :=
    save_reload rfl hyaml hapart (Prod.ext hsave rfl) huntouched hundisturbed
  exact ⟨hyaml, hapart, hsave, hreload rfl, by decide +kernel⟩

end Store

end FleetAgent
