import FleetAgent.Proofs.StoreFiles

/-!
# Saving that stops on the way

Saving a store can end at every file call, because the call fails or because the agent does. Each of the
three files is then whole, old or new, and none is new before the ones that are written ahead of it. A
draft stands where there was nothing, so a settings file that is missing must not have the name of one.
-/

namespace FleetAgent.Store

variable {store : Store} {path : Path} {before tree : FileTree} {done : Host.Writes}

/-- The first `n` of the three files have all of their new content, and the others are as they were. -/
structure SavedUpTo (store : Store) (path : Path) (before : FileTree) (n : Nat) (tree : FileTree) : Prop where
  new : ∀ write ∈ (store.writes path).take n, tree.fileAt? (before.goal write.1) = some write.2
  old : ∀ write ∈ (store.writes path).drop n,
    tree.fileAt? (before.goal write.1) = before.fileAt? (before.goal write.1)

/-- No draft is made in the place of one of the files. -/
theorem not_draftAt (hdraft : ¬ Host.DraftAt tree (tree.goal path)) :
    ∀ write ∈ store.writes path, ¬ Host.DraftAt tree (tree.goal write.1) := by
  simp only [writes, List.forall_mem_cons, List.not_mem_nil, false_imp_iff, implies_true, and_true]
  exact ⟨IdentityFile.not_draftAt tree _ _, IdentityFile.not_draftAt tree _ _, hdraft⟩

/-- What was written in order is some number of the first files. -/
theorem savedUpTo_of_written (hwritten : Host.Written done before tree) (hdone : done <+: store.writes path)
    (hapart : store.SettingsApart path before) (hdraft : ¬ Host.DraftAt before (before.goal path)) :
    store.SavedUpTo path before done.length tree := by
  have hgoal := hwritten.toKeepsDirs.goal
  obtain ⟨rest, hrest⟩ := hdone
  have htake : (store.writes path).take done.length = done := by rw [← hrest, List.take_left]
  have hdrop : (store.writes path).drop done.length = rest := by rw [← hrest, List.drop_left]
  refine ⟨fun write hwrite ↦ ?_, fun write hwrite ↦ ?_⟩
  · rw [htake] at hwrite
    rw [← hgoal]
    exact (hwritten.holds write hwrite).fileAt?
  · rw [hdrop] at hwrite
    refine hwritten.toKeeps.files _ ?_
    rintro (hplace | ⟨other, hother, hsame⟩)
    · exact not_draftAt hdraft write (hrest ▸ List.mem_append_right done hwrite) hplace
    · have happart := hapart.apart
      rw [← hrest] at happart
      exact happart.goal_ne hother hwrite hsame.symm

/-- As long as not all is saved the settings file is as it was. -/
theorem SavedUpTo.settings_old {n : Nat} (h : store.SavedUpTo path before n tree) (hn : n < 3) :
    tree.fileAt? (before.goal path) = before.fileAt? (before.goal path) := by
  refine h.old (path, store.settings.toText.toUTF8) ?_
  match n, hn with
  | 0, _ | 1, _ | 2, _ => simp [writes]

/-- The files are saved up to one of them, and up to the last one exactly when it goes well. -/
theorem savedUpTo_save (host : Host) (hfile : store.file = some path)
    (hapart : store.SettingsApart path host.tree) (hdraft : ¬ Host.DraftAt host.tree (host.tree.goal path)) :
    ∃ n ≤ 3, store.SavedUpTo path host.tree n (store.save host).2.tree ∧
      ((store.save host).1 = .ok () ↔ n = 3) := by
  obtain ⟨-, done, hdone, hwritten, hall⟩ := save_inOrder hfile host hapart.apart
  refine ⟨done.length, hdone.length_le, savedUpTo_of_written hwritten hdone hapart hdraft, fun hok ↦ ?_,
    fun hlength ↦ ?_⟩
  · rw [hall.1 ⟨(), hok⟩]
    rfl
  · obtain ⟨value, hok⟩ := hall.2 (hdone.eq_of_length hlength)
    exact hok

/-- After an error not all is saved. -/
theorem lt_of_error {n : Nat} {result : Except StoreError Unit} {error : StoreError} (hn : n ≤ 3)
    (hall : result = .ok () ↔ n = 3) (herror : result = .error error) : n < 3 := by
  refine lt_of_le_of_ne hn fun hlast ↦ ?_
  rw [hall.2 hlast] at herror
  cases herror

/-- Wherever saving stops, the files are saved up to one of them, and up to the last one exactly when it
goes well. After an error the settings file is as it was; the store is a value that saving only reads. -/
theorem save_stops (host : Host) (hfile : store.file = some path)
    (hapart : store.SettingsApart path host.tree) (hdraft : ¬ Host.DraftAt host.tree (host.tree.goal path)) :
    Host.Throughout (fun before tree ↦ ∃ n ≤ 3, store.SavedUpTo path before n tree) host
        (store.save host).2 ∧
      (∃ n ≤ 3, store.SavedUpTo path host.tree n (store.save host).2.tree ∧
        ((store.save host).1 = .ok () ↔ n = 3)) ∧
      ∀ error, (store.save host).1 = .error error →
        (store.save host).2.tree.fileAt? (host.tree.goal path) = host.tree.fileAt? (host.tree.goal path) := by
  obtain ⟨hstops, -⟩ := save_inOrder hfile host hapart.apart
  have hupTo (tree : FileTree) (h : Host.WrittenUpTo (store.writes path) host.tree tree) :
      ∃ n ≤ 3, store.SavedUpTo path host.tree n tree := by
    obtain ⟨done, hdone, hwritten⟩ := h
    exact ⟨done.length, hdone.length_le, savedUpTo_of_written hwritten hdone hapart hdraft⟩
  obtain ⟨n, hn, hsaved, hall⟩ := savedUpTo_save host hfile hapart hdraft
  exact ⟨hstops.mono hupTo, ⟨n, hn, hsaved, hall⟩,
    fun error herror ↦ hsaved.settings_old (lt_of_error hn hall herror)⟩

def homelyFile : Path := .ofString "/etc/fleet/agent.yaml"

def homely : Store where
  identityDir := .ofString "/etc/fleet"
  settings := { debug := true, systemId := "node-2", secret := "new" }
  file := some homelyFile

/-- A host with the files of an earlier store, on which the thirteenth call fails. -/
def failing : Host where
  tree.root := .dir [("etc".toList, .dir [("fleet".toList, .dir [
    ("agent.yaml".toList, .file "proxy: true\n".toUTF8), ("secret".toList, .file "old\n".toUTF8)])])]
  faults n := if n = 12 then some .busy else none

/-- On that host the store cannot be saved, and the files are whole wherever this stops. -/
theorem homely_save_stops :
    homely.SettingsApart homelyFile failing.tree ∧
      ¬ Host.DraftAt failing.tree (failing.tree.goal homelyFile) ∧
      Host.Throughout (fun before tree ↦ ∃ n ≤ 3, homely.SavedUpTo homelyFile before n tree) failing
        (homely.save failing).2 ∧
      ∃ n < 3, homely.SavedUpTo homelyFile failing.tree n (homely.save failing).2.tree := by
  have hapart : homely.SettingsApart homelyFile failing.tree := by
    rintro (_ | _) <;> decide
  have hdraft : ¬ Host.DraftAt failing.tree (failing.tree.goal homelyFile) := fun h ↦ by cases h.1
  obtain ⟨hstops, ⟨n, hn, hsaved, hall⟩, -⟩ := save_stops failing rfl hapart hdraft
  have hfails : (homely.save failing).1.isOk = false := by decide +kernel
  refine ⟨hapart, hdraft, hstops, n, lt_of_le_of_ne hn fun hlast ↦ ?_, hsaved⟩
  rw [hall.2 hlast] at hfails
  cases hfails

end FleetAgent.Store
