import FleetAgent.Proofs.HostActs
import FleetAgent.Settings.Identity

/-!
# A host that nothing disturbs

Where no call fails for a reason outside the tree, each call does just what the tree allows, and what an
activity gives depends on the tree alone. `Yields` says of an activity what it gives on such a host and
which tree it leaves there, `Fails` says the same of the error that it ends with, and both pass from the
single calls to what is put together of them.
-/

namespace FleetAgent.Host

variable {ε ε' α β : Type} {host : Host} {tree next last : FileTree}

/-- No call that is still to come fails for a reason outside the tree. -/
def Undisturbed (host : Host) : Prop := ∀ n, host.calls ≤ n → host.faults n = none

/-- The same faults are planted as before, and no call is taken back. -/
structure Advances (host after : Host) : Prop where
  faults : after.faults = host.faults
  calls : host.calls ≤ after.calls

instance : Std.Refl Advances := ⟨fun _ ↦ ⟨rfl, Nat.le_refl _⟩⟩

instance : IsTrans Host Advances :=
  ⟨fun _ _ _ h h' ↦ ⟨h'.faults.trans h.faults, Nat.le_trans h.calls h'.calls⟩⟩

/-- Every call is counted, and none of them plants a fault. -/
theorem call_counts (act : FileTree → Except FileError (α × FileTree)) (host : Host) :
    (call act host).2.faults = host.faults ∧ (call act host).2.calls = host.calls + 1 := by
  unfold call
  cases host.faults host.calls with
  | some fault => exact ⟨rfl, rfl⟩
  | none => cases act host.tree <;> exact ⟨rfl, rfl⟩

theorem advances_call (act : FileTree → Except FileError (α × FileTree)) : Leads Advances (call act) :=
  fun host ↦ ⟨(call_counts act host).1, (call_counts act host).2 ▸ Nat.le_succ _⟩

/-- A host that nothing disturbs is not disturbed later. -/
theorem Advances.undisturbed {after : Host} (h : Advances host after) (hhost : host.Undisturbed) :
    after.Undisturbed :=
  fun n hn ↦ (congrFun h.faults n).trans (hhost n (Nat.le_trans h.calls hn))

/-- The host has the tree, and nothing disturbs it. -/
structure RestsOn (host : Host) (tree : FileTree) : Prop where
  tree_eq : host.tree = tree
  undisturbed : host.Undisturbed

theorem RestsOn.of_undisturbed (h : host.Undisturbed) : host.RestsOn host.tree := ⟨rfl, h⟩

/-- A host that nothing disturbs is none the less so for a call. -/
theorem Undisturbed.after_call (h : host.Undisturbed) (tree : FileTree) (trail : List FileTree) :
    Undisturbed { host with tree, calls := host.calls + 1, trail } :=
  fun n hn ↦ h n (Nat.le_trans (Nat.le_succ _) hn)

/-- On any host that rests on the tree the activity gives the value, and the host then rests on the next
tree. -/
def Yields (act : HostM ε α) (tree : FileTree) (value : α) (next : FileTree) : Prop :=
  ∀ host : Host, host.RestsOn tree → ∃ after, act host = (.ok value, after) ∧ after.RestsOn next

/-- On any host that rests on the tree the activity ends with the error, and the host then rests on the
next tree. -/
def Fails (act : HostM ε α) (tree : FileTree) (error : ε) (next : FileTree) : Prop :=
  ∀ host : Host, host.RestsOn tree → ∃ after, act host = (.error error, after) ∧ after.RestsOn next

namespace Fails

theorem bind {act : HostM ε α} {more : α → HostM ε β} {error : ε} (h : Fails act tree error next) :
    Fails (act >>= more) tree error next := by
  intro host hhost
  obtain ⟨after, herror, hafter⟩ := h host hhost
  exact ⟨after, bind_of_error herror, hafter⟩

/-- What goes well first and fails then. -/
theorem after {act : HostM ε α} {more : α → HostM ε β} {value : α} {error : ε}
    (h : Fails (more value) next error last) (hact : Yields act tree value next) :
    Fails (act >>= more) tree error last := by
  intro host hhost
  obtain ⟨middle, hvalue, hmiddle⟩ := hact host hhost
  rw [bind_of_ok hvalue]
  exact h middle hmiddle

theorem throw (error : ε) (tree : FileTree) : Fails (throw error : HostM ε α) tree error tree :=
  fun host hhost ↦ ⟨host, rfl, hhost⟩

/-- A call that the tree does not allow leaves it as it is. -/
theorem call {act : FileTree → Except FileError (α × FileTree)} {fault : FileError}
    (hact : act tree = .error fault) : Fails (call act) tree fault tree := by
  rintro host ⟨rfl, hquiet⟩
  unfold Host.call
  simp only [hquiet host.calls (Nat.le_refl _), hact]
  exact ⟨_, rfl, rfl, hquiet.after_call _ _⟩

theorem alter {act : FileTree → Except FileError FileTree} {fault : FileError}
    (hact : act tree = .error fault) : Fails (alter act) tree fault tree :=
  call (by rw [hact]; rfl)

theorem mapError {act : HostM ε α} {error : ε} (h : Fails act tree error next) (f : ε → ε') :
    Fails (mapError f act) tree (f error) next := by
  intro host hhost
  obtain ⟨after, herror, hafter⟩ := h host hhost
  refine ⟨after, ?_, hafter⟩
  unfold Host.mapError
  rw [herror]

theorem outcome {act : HostM ε α} {error : ε} (h : Fails act tree error next) :
    Yields (outcome act : HostM ε' (Except ε α)) tree (.error error) next := by
  intro host hhost
  obtain ⟨after, herror, hafter⟩ := h host hhost
  refine ⟨after, ?_, hafter⟩
  unfold Host.outcome
  rw [herror]

end Fails

theorem fromUTF8?_toUTF8 (text : String) : String.fromUTF8? text.toUTF8 = some text := by
  simp only [String.fromUTF8?, String.toUTF8_eq_toByteArray]
  rw [dif_pos text.isValidUTF8]
  rfl

namespace Yields

theorem bind {act : HostM ε α} {more : α → HostM ε β} {value : α} {result : β}
    (hact : Yields act tree value next) (hmore : Yields (more value) next result last) :
    Yields (act >>= more) tree result last := by
  intro host hhost
  obtain ⟨middle, hvalue, hmiddle⟩ := hact host hhost
  rw [bind_of_ok hvalue]
  exact hmore middle hmiddle

theorem pure (value : α) (tree : FileTree) : Yields (pure value : HostM ε α) tree value tree :=
  fun host hhost ↦ ⟨host, rfl, hhost⟩

theorem mapError {act : HostM ε α} {value : α} (h : Yields act tree value next) (f : ε → ε') :
    Yields (mapError f act) tree value next := by
  intro host hhost
  obtain ⟨after, hvalue, hafter⟩ := h host hhost
  refine ⟨after, ?_, hafter⟩
  unfold Host.mapError
  rw [hvalue]

theorem outcome {act : HostM ε α} {value : α} (h : Yields act tree value next) :
    Yields (outcome act : HostM ε' (Except ε α)) tree (.ok value) next := by
  intro host hhost
  obtain ⟨after, hvalue, hafter⟩ := h host hhost
  refine ⟨after, ?_, hafter⟩
  unfold Host.outcome
  rw [hvalue]

theorem look (see : FileTree → α) (tree : FileTree) : Yields (look see : HostM ε α) tree (see tree) tree := by
  rintro host ⟨rfl, hquiet⟩
  exact ⟨host, rfl, rfl, hquiet⟩

theorem report (event : Log.Event) (tree : FileTree) : Yields (report event : HostM ε Unit) tree () tree := by
  rintro host ⟨rfl, hquiet⟩
  exact ⟨_, rfl, rfl, hquiet⟩

theorem call {act : FileTree → Except FileError (α × FileTree)} {value : α}
    (hact : act tree = .ok (value, next)) : Yields (call act) tree value next := by
  rintro host ⟨rfl, hquiet⟩
  unfold Host.call
  simp only [hquiet host.calls (Nat.le_refl _), hact]
  exact ⟨_, rfl, rfl, hquiet.after_call _ _⟩

theorem ask {see : FileTree → Except FileError α} {value : α} (hsee : see tree = .ok value) :
    Yields (ask see) tree value tree :=
  call (by rw [hsee]; rfl)

theorem alter {act : FileTree → Except FileError FileTree} (hact : act tree = .ok next) :
    Yields (alter act) tree () next :=
  call (by rw [hact]; rfl)

/-- Where the directory is there nothing has to be made. -/
theorem makeDirs {path : Path} (hmake : path.chars = [] ∨ tree.makeDir path = .error .alreadyExists)
    (hdir : path.chars = [] ∨ tree.isDir path = true) : Yields (makeDirs path) tree () tree := by
  unfold Host.makeDirs makeDirsUnder
  split
  · exact pure () tree
  · next hshown =>
    refine (Fails.alter (hmake.resolve_left hshown)).outcome.bind ((look _ tree).bind ?_)
    rw [hdir.resolve_left hshown]
    exact pure () tree

/-- A file with a text in it can be read as text. -/
theorem readText {path : Path} {text : String} (hread : tree.read path = .ok text.toUTF8) :
    Yields (readText path) tree text tree := by
  unfold Host.readText
  refine (ask hread).bind ?_
  rw [fromUTF8?_toUTF8]
  exact pure text tree

end Yields

theorem mapError_eq_ok {f : ε → ε'} {act : HostM ε α} {value : α} {after : Host}
    (h : mapError f act host = (.ok value, after)) : act host = (.ok value, after) := by
  unfold mapError at h
  rcases hact : act host with ⟨fault | found, later⟩
  · rw [hact] at h
    cases h
  · rw [hact] at h
    obtain ⟨hvalue, rfl⟩ := Prod.mk.inj h
    rw [Except.ok.inj hvalue]

theorem mapError_eq_error {f : ε → ε'} {act : HostM ε α} {error : ε'} {after : Host}
    (h : mapError f act host = (.error error, after)) : ∃ fault, error = f fault := by
  unfold mapError at h
  rcases hact : act host with ⟨fault | found, later⟩
  · rw [hact] at h
    exact ⟨fault, (Except.error.inj (Prod.mk.inj h).1).symm⟩
  · rw [hact] at h
    cases h

end FleetAgent.Host
