import FleetAgent.Proofs.FilesInOrder
import FleetAgent.Proofs.StoreReading

/-!
# The files of a store

A store is written to three files: the two parts of the identity and the settings, in this order. Where
the settings file is none of the other two, saving gives them their new contents one after the other.
-/

namespace FleetAgent

namespace IdentityFile

theorem isEntryName_name (file : IdentityFile) : Path.IsEntryName file.name.toList := by
  cases file <;> decide

theorem goal_path (tree : FileTree) (file : IdentityFile) (directory : Path) :
    tree.goal (file.path directory) = tree.goal directory ++ [file.name.toList] :=
  tree.goal_join directory file.isEntryName_name

/-- The two identity files are different ones. -/
theorem goal_path_ne (tree : FileTree) (directory : Path) :
    tree.goal (systemId.path directory) ≠ tree.goal (secret.path directory) := by
  rw [goal_path, goal_path]
  intro h
  exact absurd (List.append_cancel_left h) (by decide)

/-- No temporary file is called like the file. -/
theorem not_draftAt (tree : FileTree) (file : IdentityFile) (directory : Path) :
    ¬ Host.DraftAt tree (tree.goal (file.path directory)) := by
  rintro ⟨-, n, hn⟩
  rw [goal_path, List.getLast?_concat, Option.some.injEq] at hn
  have hfirst : file.name.toList.head? = some '.' := by
    rw [hn]
    rfl
  cases file <;> exact absurd hfirst (by decide)

theorem write_inOrder (file : IdentityFile) (directory : Path) (value : String) :
    Host.WritesInOrder [(file.path directory, value.toUTF8)] (file.write directory value) :=
  ((Host.WritesInOrder.replaceFile (file.path directory) value.toUTF8).mapError _).bind
    fun _ ↦ .report (file.written (file.path directory))

end IdentityFile

namespace Store

variable {store : Store} {path : Path} {tree : FileTree}

/-- The settings file is none of the identity files. -/
def SettingsApart (store : Store) (path : Path) (tree : FileTree) : Prop :=
  ∀ file : IdentityFile, tree.goal path ≠ tree.goal (file.path store.identityDir)

/-- What is written where when the store is saved, in order. -/
def writes (store : Store) (path : Path) : Host.Writes :=
  [(IdentityFile.systemId.path store.identityDir, store.settings.systemId.toUTF8),
    (IdentityFile.secret.path store.identityDir, store.settings.secret.toUTF8),
    (path, store.settings.toText.toUTF8)]

/-- All the files that a store is written to lie at different places. -/
theorem SettingsApart.apart (h : store.SettingsApart path tree) : Host.Apart tree (store.writes path) := by
  have hsystemId := (h .systemId).symm
  have hsecret := (h .secret).symm
  have hidentity := IdentityFile.goal_path_ne tree store.identityDir
  simp [Host.Apart, writes, hsystemId, hsecret, hidentity]

/-- Saving writes the identity first and the settings last, wherever it stops. -/
theorem save_inOrder (hfile : store.file = some path) :
    Host.WritesInOrder (store.writes path) store.save := by
  have hsystemId := (IdentityFile.systemId.write_inOrder store.identityDir store.settings.systemId).mapError
    StoreError.identityUnwritten
  have hsecret := (IdentityFile.secret.write_inOrder store.identityDir store.settings.secret).mapError
    StoreError.identityUnwritten
  have hsettings := (Host.WritesInOrder.replaceFile path store.settings.toText.toUTF8).mapError
    (StoreError.unwritten path)
  unfold save
  rw [getFile_of_file hfile, pure_bind]
  exact hsystemId.bind fun _ ↦ hsecret.bind fun _ ↦ hsettings.bind fun _ ↦ .report (saved path)

end Store

end FleetAgent
