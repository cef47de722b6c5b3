import FleetAgent.Proofs.Interruption

/-!
# Files written one after the other

An activity that writes files in order has, wherever it stops, given the first of them all of their new
content, and has left the others as they were. This passes from the replacing of single files to one
activity after another.
-/

namespace FleetAgent.Host

/-- Files that are to be written, each with its new content. -/
abbrev Writes := List (Path × ByteArray)

/-- The files have their new contents, and apart from them nothing but drafts is different. -/
structure Written (done : Writes) (before tree : FileTree) : Prop extends
    FileTree.Keeps (fun location ↦ DraftAt before location ∨ ∃ write ∈ done, location = before.goal write.1)
      before tree where
  holds : ∀ write ∈ done, tree.Holds write.1 write.2

/-- The first of the files have been written. -/
def WrittenUpTo (writes : Writes) (before tree : FileTree) : Prop :=
  ∃ done, done <+: writes ∧ Written done before tree

def Apart (tree : FileTree) (writes : Writes) : Prop := (writes.map fun write ↦ tree.goal write.1).Nodup

/-- Wherever the activity stops, the first of the files have been written, and all of them when it goes
well. -/
def WritesInOrder {ε α : Type} (writes : Writes) (act : HostM ε α) : Prop :=
  ∀ host : Host, Apart host.tree writes →
    Throughout (WrittenUpTo writes) host (act host).2 ∧
      ∃ done, done <+: writes ∧ Written done host.tree (act host).2.tree ∧
        ((∃ value, (act host).1 = .ok value) ↔ done = writes)

variable {ε ε' α β : Type} {host middle after : Host} {before tree later : FileTree} {done writes more : Writes}

theorem Written.nil (h : FileTree.Keeps (DraftAt before) before tree) : Written [] before tree :=
  ⟨h.mono fun _ ↦ .inl, by simp⟩

theorem writtenUpTo_refl (writes : Writes) (tree : FileTree) : WrittenUpTo writes tree tree :=
  ⟨[], List.nil_prefix, .nil (.refl _ tree)⟩

theorem WrittenUpTo.mono (h : WrittenUpTo writes before tree) (hmore : writes <+: more) :
    WrittenUpTo more before tree := by
  obtain ⟨done, hdone, hwritten⟩ := h
  exact ⟨done, hdone.trans hmore, hwritten⟩

theorem Apart.of_goal (h : Apart before writes) (hgoal : ∀ path, tree.goal path = before.goal path) :
    Apart tree writes := by
  unfold Apart
  simp only [hgoal]
  exact h

theorem Apart.left (h : Apart tree (writes ++ more)) : Apart tree writes := by
  unfold Apart at h
  rw [List.map_append] at h
  exact (List.nodup_append.1 h).1

theorem Apart.right (h : Apart tree (writes ++ more)) : Apart tree more := by
  unfold Apart at h
  rw [List.map_append] at h
  exact (List.nodup_append.1 h).2.1

/-- A file of an earlier group lies elsewhere than any file of a later group. -/
theorem Apart.goal_ne (h : Apart tree (writes ++ more)) {write other : Path × ByteArray}
    (hwrite : write ∈ writes) (hother : other ∈ more) : tree.goal write.1 ≠ tree.goal other.1 := by
  unfold Apart at h
  rw [List.map_append, List.nodup_append] at h
  exact h.2.2 _ (List.mem_map_of_mem hwrite) _ (List.mem_map_of_mem hother)

/-- Writing more files after the first ones. -/
theorem Written.append (h : Written writes before tree) (h' : Written done tree later)
    (hapart : Apart before (writes ++ done)) : Written (writes ++ done) before later := by
  have hgoal := h.toKeepsDirs.goal
  refine ⟨(h.toKeeps.mono ?_).trans (h'.toKeeps.mono ?_), ?_⟩
  · rintro location (hdraft | ⟨write, hwrite, rfl⟩)
    · exact .inl hdraft
    · exact .inr ⟨write, List.mem_append_left _ hwrite, rfl⟩
  · rintro location (⟨hnone, hname⟩ | ⟨write, hwrite, rfl⟩)
    · by_cases hchanged : DraftAt before location ∨ ∃ write ∈ writes, location = before.goal write.1
      · rcases hchanged with hdraft | ⟨write, hwrite, rfl⟩
        · exact .inl hdraft
        · exact .inr ⟨write, List.mem_append_left _ hwrite, rfl⟩
      · exact .inl ⟨h.toKeeps.at?_eq_none hchanged hnone, hname⟩
    · exact .inr ⟨write, List.mem_append_right _ hwrite, hgoal write.1⟩
  · intro write hwrite
    rcases List.mem_append.1 hwrite with hwrite | hwrite
    · refine h'.toKeeps.holds (h.holds write hwrite) ?_
      rintro (⟨hnone, -⟩ | ⟨other, hother, hsame⟩)
      · rw [(h.holds write hwrite).file] at hnone
        cases hnone
      · rw [hgoal, hgoal] at hsame
        exact hapart.goal_ne hwrite hother hsame
    · exact h'.holds write hwrite

/-- The first of more files have been written, after all of those ahead of them. -/
theorem WrittenUpTo.behind (h : WrittenUpTo more tree later) (hwritten : Written writes before tree)
    (hapart : Apart before (writes ++ more)) : WrittenUpTo (writes ++ more) before later := by
  obtain ⟨done, hdone, hmore⟩ := h
  refine ⟨writes ++ done, (List.prefix_append_right_inj writes).2 hdone, hwritten.append hmore ?_⟩
  obtain ⟨left, rfl⟩ := hdone
  rw [← List.append_assoc] at hapart
  exact hapart.left

namespace WritesInOrder

/-- One activity after the other. -/
theorem bind {act : HostM ε α} {next : α → HostM ε β} (hact : WritesInOrder writes act)
    (hnext : ∀ value, WritesInOrder more (next value)) : WritesInOrder (writes ++ more) (act >>= next) := by
  intro host hapart
  obtain ⟨hstops, done, hdone, hwritten, hall⟩ := hact host hapart.left
  have hgrows : writes <+: writes ++ more := List.prefix_append writes more
  replace hstops : Throughout (WrittenUpTo (writes ++ more)) host (act host).2 :=
    hstops.mono fun _ h ↦ h.mono hgrows
  rw [bind_apply]
  rcases hrun : act host with ⟨fault | value, middle⟩ <;> rw [hrun] at hstops hwritten hall
  · have hpart : done ≠ writes := fun hsame ↦ by simpa using hall.2 hsame
    refine ⟨hstops, done, hdone.trans hgrows, hwritten, fun ⟨_, h⟩ ↦ (by cases h), fun hsame ↦ ?_⟩
    exact absurd (hdone.eq_of_length_le (by simp [hsame])) hpart
  · obtain rfl : done = writes := hall.1 ⟨value, rfl⟩
    obtain ⟨hlater, rest, hrest, hmore, hevery⟩ :=
      hnext value middle (hapart.right.of_goal hwritten.toKeepsDirs.goal)
    refine ⟨hstops.followed hlater fun _ h ↦ WrittenUpTo.behind h hwritten hapart, done ++ rest,
      (List.prefix_append_right_inj done).2 hrest, ?_, ?_⟩
    · obtain ⟨left, rfl⟩ := hrest
      rw [← List.append_assoc] at hapart
      exact hwritten.append hmore hapart.left
    · rw [hevery, List.append_cancel_left_eq]

/-- Nothing is written by what leaves the tree alone and cannot fail. -/
theorem report (event : Log.Event) : WritesInOrder [] (Host.report event : HostM ε Unit) := by
  intro host _
  refine ⟨⟨⟨[], rfl, by simp⟩, writtenUpTo_refl [] host.tree⟩, [], List.nil_prefix, ?_, ?_⟩
  · exact .nil (.refl _ host.tree)
  · exact ⟨fun _ ↦ rfl, fun _ ↦ ⟨(), rfl⟩⟩

theorem mapError {act : HostM ε α} (h : WritesInOrder writes act) (f : ε → ε') :
    WritesInOrder writes (Host.mapError f act) := by
  intro host hapart
  have hact := h host hapart
  unfold Host.mapError
  rcases hrun : act host with ⟨fault | value, after⟩ <;> rw [hrun] at hact
  · obtain ⟨hstops, done, hdone, hwritten, hall⟩ := hact
    exact ⟨hstops, done, hdone, hwritten, by simpa using hall⟩
  · obtain ⟨hstops, done, hdone, hwritten, hall⟩ := hact
    exact ⟨hstops, done, hdone, hwritten, by simpa using hall⟩

/-- Replacing a file writes this one file, wherever it stops. -/
theorem replaceFile (path : Path) (content : ByteArray) :
    WritesInOrder [(path, content)] (Host.replaceFile path content) := by
  intro host _
  have hstill {tree : FileTree} (h : FileTree.Keeps (DraftAt host.tree) host.tree tree) :
      WrittenUpTo [(path, content)] host.tree tree := ⟨[], List.nil_prefix, .nil h⟩
  rcases replaceFile_ends path content host with ⟨fault, hfault, hstops⟩ | ⟨hok, hlast, hholds⟩
  · exact ⟨hstops.mono fun _ ↦ hstill, [], List.nil_prefix, .nil hstops.ends, by simp [hfault]⟩
  · obtain ⟨before, hbefore, hkeeps, htrail⟩ := hlast
    have hwritten : Written [(path, content)] host.tree (Host.replaceFile path content host).2.tree := by
      refine ⟨(hbefore.ends.mono fun _ ↦ .inl).trans (hkeeps.mono ?_), by simpa using hholds⟩
      rintro location (hdraft | rfl)
      · exact .inl hdraft
      · exact .inr ⟨_, List.mem_singleton.2 rfl, rfl⟩
    have hdone : WrittenUpTo [(path, content)] host.tree (Host.replaceFile path content host).2.tree :=
      ⟨_, List.prefix_rfl, hwritten⟩
    exact ⟨(hbefore.mono fun _ ↦ hstill).push htrail hdone, _, List.prefix_rfl, hwritten, by simp [hok]⟩

end WritesInOrder

end FleetAgent.Host
