import FleetAgent.Proofs.LogFiles

/-!
# What a rotation does

A rotation puts a new live file in front of the row: each file moves on by one place, gaps included, and
the one at the last place is dropped. No other entry of the directory is touched, and nothing can go
wrong on a host that nothing disturbs.
-/

namespace FleetAgent.Log.Rotating

variable {log : Rotating} {files files' : Nat → Option ByteArray} {tree later : FileTree}
  {content : ByteArray} {α : Type}

/-- The log has its row of files, and has its live file open. -/
structure Open (log : Rotating) (files : Nat → Option ByteArray) (tree : FileTree) : Prop where
  keeps : 0 < log.keep
  series : Series log.live log.keep files tree
  file : log.file = tree.goal log.live

/-- The log goes on with the same row of files. -/
structure Continues (log after : Rotating) : Prop where
  live : after.live = log.live
  keep : after.keep = log.keep
  limit : after.limit = log.limit
  file : after.file = log.file

theorem Open.of_becomes {after : Rotating} (h : log.Open files tree) (hafter : log.Continues after)
    (hbecomes : Becomes log.live log.keep files' tree later) : after.Open files' later := by
  obtain ⟨hlive, hkeep, -, hfile⟩ := hafter
  refine ⟨hkeep ▸ h.keeps, ?_, ?_⟩
  · rw [hlive, hkeep]
    exact hbecomes.series
  · rw [hfile, hlive, h.file, hbecomes.only.toKeepsDirs.goal]

/-! ## Moving the older files on -/

/-- The older files with the first `n` of them moved on by one place. -/
def moved (files : Nat → Option α) (n : Nat) : Nat → Option α
  | 0 => files 0
  | 1 => none
  | k + 2 => if k < n then files (k + 1) else files (k + 2)

theorem moved_zero {files : Nat → Option α} (h : files 1 = none) : moved files 0 = files := by
  funext k
  match k with
  | 0 | 1 => simp [moved, h]
  | k + 2 => rfl

/-- The last of the files is moved on ahead of the others. -/
theorem moved_succ (files : Nat → Option α) (n : Nat) :
    moved (Function.update (Function.update files (n + 1) none) (n + 2) (files (n + 1))) n =
      moved files (n + 1) := by
  funext k
  match k with
  | 0 | 1 => simp [moved]
  | k + 2 => grind [moved, Function.update]

/-- Whatever stood at the last place is overrun. -/
theorem moved_update (files : Nat → Option α) (n : Nat) :
    moved (Function.update files (n + 1) none) n = moved files n := by
  funext k
  match k with
  | 0 | 1 => simp [moved]
  | k + 2 => grind [moved, Function.update]

/-- The highest generation is moved first. -/
theorem shift_succ (log : Rotating) (n : Nat) :
    log.shift (n + 1) = Host.look (·.exists? (log.generation (n + 1))) >>= fun there ↦
      (if there then Host.alter (·.rename (log.generation (n + 1)) (log.generation (n + 2))) else pure ()) >>=
        fun _ ↦ log.shift n := by
  rw [shift]
  refine bind_congr fun there ↦ ?_
  cases there with
  | false => rfl
  | true => rfl

/-- Where the entries of a row can be found and moved to free places, the older ones are moved on, the last
one first. -/
theorem yields_shift_of {P : (Nat → Option α) → FileTree → Prop} {keep n : Nat} {entries : Nat → Option α}
    (hfound : ∀ entries tree n, P entries tree → n + 1 < keep →
      tree.exists? (log.generation (n + 1)) = (entries (n + 1)).isSome)
    (hmoves : ∀ entries tree n entry, P entries tree → n + 2 < keep → entries (n + 1) = some entry →
      entries (n + 2) = none → ∃ later,
        Host.Yields (Host.alter (·.rename (log.generation (n + 1)) (log.generation (n + 2)))) tree () later ∧
          P (Function.update (Function.update entries (n + 1) none) (n + 2) (some entry)) later)
    (h : P entries tree) (hn : n + 1 < keep) (hfree : entries (n + 1) = none) :
    ∃ later, Host.Yields (log.shift n) tree () later ∧ P (moved entries n) later := by
  induction n generalizing entries tree with
  | zero =>
    rw [moved_zero hfree]
    exact ⟨tree, .pure () tree, h⟩
  | succ n ih =>
    have hn' : n + 1 < keep := Nat.lt_of_succ_lt hn
    obtain ⟨middle, hmove, hmoved⟩ : ∃ middle,
        Host.Yields (if tree.exists? (log.generation (n + 1)) then
          Host.alter (·.rename (log.generation (n + 1)) (log.generation (n + 2))) else pure ()) tree () middle ∧
        P (Function.update (Function.update entries (n + 1) none) (n + 2) (entries (n + 1))) middle := by
      rw [hfound entries tree n h hn']
      cases hentry : entries (n + 1) with
      | none =>
        refine ⟨tree, .pure () tree, ?_⟩
        rw [← hentry, Function.update_eq_self, hentry, ← hfree, Function.update_eq_self]
        exact h
      | some entry =>
        obtain ⟨middle, hrename, hmoved⟩ := hmoves entries tree n entry h hn hentry hfree
        exact ⟨middle, hrename, hmoved⟩
    obtain ⟨later, hshift, hshifted⟩ := ih hmoved hn' (by simp)
    rw [moved_succ] at hshifted
    rw [shift_succ]
    exact ⟨later, (Host.Yields.look _ tree).bind (hmove.bind hshift), hshifted⟩

/-- When the highest place is free, all lower generations move on by one. -/
theorem yields_shift {n : Nat} (h : Series log.live log.keep files tree) (hn : n + 1 < log.keep)
    (hfree : files (n + 1) = none) :
    ∃ later, Host.Yields (log.shift n) tree () later ∧
      Becomes log.live log.keep (moved files n) tree later := by
  refine yields_shift_of (P := fun files later ↦ Becomes log.live log.keep files tree later)
    (fun files middle n hmiddle hn ↦ hmiddle.series.exists? hn) ?_ h.becomes hn hfree
  intro files middle n content hmiddle hn hcontent _
  obtain ⟨later, hrename, hrenamed⟩ :=
    hmiddle.series.yields_rename (Nat.lt_of_succ_lt hn) hn (Nat.succ_ne_self _).symm hcontent
  exact ⟨later, hrename, hmiddle.trans hrenamed⟩

/-! ## A new live file -/

/-- The files with a new one in front, empty as yet. -/
def rotated (files : Nat → Option ByteArray) : Nat → Option ByteArray
  | 0 => some .empty
  | k + 1 => files k

/-- A log that is open rotates: the oldest file goes, the others move on, and a new live file begins. -/
theorem yields_rotate (h : log.Open files tree) (hlive : files 0 = some content) :
    ∃ after later, Host.Yields log.rotate tree after later ∧ log.Continues after ∧
      Becomes log.live log.keep (rotated files) tree later := by
  obtain ⟨hkeeps, hseries, hfile⟩ := h
  unfold rotate
  by_cases hsingle : log.keep - 1 = 0
  · obtain ⟨later, hopen, hopened⟩ := hseries.yields_open hkeeps false
    simp only [if_pos hsingle]
    refine ⟨{ log with file := tree.goal log.live, written := 0 }, later, hopen.bind (.pure _ later),
      ⟨rfl, rfl, rfl, hfile.symm⟩, hopened.series.congr fun n hn ↦ ?_, hopened.only⟩
    obtain rfl : n = 0 := by omega
    rfl
  · obtain ⟨oldest, holdest⟩ : ∃ oldest, log.keep = oldest + 2 := ⟨log.keep - 2, by omega⟩
    have hlast : log.keep - 1 = oldest + 1 := by omega
    simp only [if_neg hsingle]
    rw [hlast, Nat.add_sub_cancel]
    obtain ⟨first, hdrop, hdropped⟩ := hseries.yields_dropIfThere (n := oldest + 1) (by omega)
    obtain ⟨second, hshift, hshifted⟩ := yields_shift hdropped.series (by omega) (Function.update_self ..)
    have hstays : moved (Function.update files (oldest + 1) none) oldest 0 = some content := by
      simpa [moved] using hlive
    obtain ⟨third, hmove, hmoved⟩ :=
      hshifted.series.yields_rename (n := 1) hkeeps (by omega) Nat.zero_ne_one hstays
    obtain ⟨last, hopen, hopened⟩ := hmoved.series.yields_open hkeeps true
    have hall := ((hdropped.trans hshifted).trans hmoved).trans hopened
    refine ⟨{ log with file := third.goal log.live, written := 0 }, last, ?_, ⟨rfl, rfl, rfl, ?_⟩, ?_⟩
    · exact hdrop.bind (hshift.bind (hmove.bind (hopen.bind (.pure _ last))))
    · rw [hfile]
      exact ((hdropped.trans hshifted).trans hmoved).only.toKeepsDirs.goal _
    · refine ⟨hall.series.congr fun n hn ↦ ?_, hall.only⟩
      match n with
      | 0 => simp [rotated]
      | 1 => simp [rotated, hlive]
      | k + 2 =>
        have hk : k < oldest := by omega
        have hne : k + 1 ≠ oldest + 1 := by omega
        simp [rotated, moved, hk, Function.update_of_ne hne]

end FleetAgent.Log.Rotating
