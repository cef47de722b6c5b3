import FleetAgent.Proofs.TargetAlone

/-!
# What replacing files leaves alone

To replace files is to change no others, but for drafts that could not be dropped again. `Touches` says
so of two states of a host, and says more of a host that nothing disturbs: there every draft is gone in
the end, and the host is as undisturbed as before.
-/

namespace FleetAgent.Host

variable {ε α : Type} {host middle after : Host} {paths : List Path}

/-- Of all files only those of the paths are different, and drafts; on an undisturbed host not even these,
and nothing disturbs it afterwards. -/
structure Touches (paths : List Path) (host after : Host) : Prop where
  keeps : FileTree.Keeps
    (fun location ↦ DraftAt host.tree location ∨ ∃ path ∈ paths, location = host.tree.goal path)
    host.tree after.tree
  quiet : host.Undisturbed → after.Undisturbed ∧
    FileTree.Keeps (fun location ↦ ∃ path ∈ paths, location = host.tree.goal path) host.tree after.tree

theorem Touches.trans (h : Touches paths host middle) (h' : Touches paths middle after) :
    Touches paths host after := by
  have hgoal := h.keeps.toKeepsDirs.goal
  have hquiet (location : Location) (hlocation : ∃ path ∈ paths, location = middle.tree.goal path) :
      ∃ path ∈ paths, location = host.tree.goal path := by
    obtain ⟨path, hpath, rfl⟩ := hlocation
    exact ⟨path, hpath, hgoal path⟩
  refine ⟨h.keeps.trans (h'.keeps.mono ?_), fun hhost ↦ ?_⟩
  · rintro location (⟨hnone, hname⟩ | hlocation)
    · -- A later draft stands at a place that was free before, or was changed before.
      by_cases hchanged : DraftAt host.tree location ∨ ∃ path ∈ paths, location = host.tree.goal path
      · exact hchanged
      · exact .inl ⟨h.keeps.at?_eq_none hchanged hnone, hname⟩
    · exact .inr (hquiet location hlocation)
  · obtain ⟨hmiddle, hfirst⟩ := h.quiet hhost
    obtain ⟨hafter, hsecond⟩ := h'.quiet hmiddle
    exact ⟨hafter, hfirst.trans (hsecond.mono hquiet)⟩

instance (paths : List Path) : Std.Refl (Touches paths) :=
  ⟨fun host ↦ ⟨.refl _ host.tree, fun h ↦ ⟨h, .refl _ host.tree⟩⟩⟩

instance (paths : List Path) : IsTrans Host (Touches paths) := ⟨fun _ _ _ ↦ Touches.trans⟩

theorem Touches.mono {more : List Path} (h : Touches paths host after) (hmore : paths ⊆ more) :
    Touches more host after := by
  have hpath (location : Location) (hlocation : ∃ path ∈ paths, location = host.tree.goal path) :
      ∃ path ∈ more, location = host.tree.goal path := by
    obtain ⟨path, hpath, hgoal⟩ := hlocation
    exact ⟨path, hmore hpath, hgoal⟩
  refine ⟨h.keeps.mono fun location ↦ Or.imp_right (hpath location), fun hhost ↦ ?_⟩
  exact (h.quiet hhost).imp_right fun hkeeps ↦ hkeeps.mono hpath

theorem touches_report (paths : List Path) (event : Log.Event) :
    Leads (Touches paths) (report event : HostM ε Unit) :=
  fun host ↦ ⟨.refl _ host.tree, fun h ↦ ⟨h, .refl _ host.tree⟩⟩

/-! ## Nothing begins to disturb a host -/

/-- If nothing disturbed the host before, nothing does now. -/
def StaysQuiet (host after : Host) : Prop := host.Undisturbed → after.Undisturbed

instance : Std.Refl StaysQuiet := ⟨fun _ h ↦ h⟩

instance : IsTrans Host StaysQuiet := ⟨fun _ _ _ h h' hhost ↦ h' (h hhost)⟩

theorem staysQuiet_call (act : FileTree → Except FileError (α × FileTree)) : Leads StaysQuiet (call act) :=
  fun host ↦ (advances_call act host).undisturbed

theorem staysQuiet_makeDirs (path : Path) : Leads StaysQuiet (makeDirs path) :=
  leads_makeDirs (fun _ ↦ staysQuiet_call _) path

/-! ## Replacing one file -/

/-- Replacing a file touches this file and no other. -/
theorem touches_replaceFile (path : Path) (content : ByteArray) :
    Leads (Touches [path]) (replaceFile path content) := by
  intro host
  have hadvances := advances_replaceFile path content host
  rcases hrun : replaceFile path content host with ⟨fault | _, after⟩ <;> rw [hrun] at hadvances
  · have hundone := replaceFile_eq_error hrun
    refine ⟨?_, fun hhost ↦ ⟨hadvances.undisturbed hhost, ?_⟩⟩
    · cases hundone with
      | clean hlaid => exact hlaid.toKeeps.mono fun _ ↦ False.elim
      | stuck hdraft hlaid => exact hlaid.toKeeps.mono fun _ hlocation ↦ .inl (hlocation ▸ hdraft)
    · exact (hundone.clean_of_undisturbed hhost).toKeeps.mono fun _ ↦ False.elim
  · have hkeeps : FileTree.Keeps (fun location ↦ ∃ other ∈ [path], location = host.tree.goal other) host.tree
        after.tree := by
      simp only [List.mem_singleton, exists_eq_left]
      exact (replaceFile_eq_ok hrun).2.toKeeps
    exact ⟨hkeeps.mono fun _ ↦ .inr, fun hhost ↦ ⟨hadvances.undisturbed hhost, hkeeps⟩⟩

end FleetAgent.Host
