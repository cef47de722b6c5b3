/-!
# Splitting text

A mark that occurs `n` times divides a text into `n + 1` stretches, some of which may be empty. The
stretches with the mark between each two of them are the text again.
-/

namespace FleetAgent.Text

/-- The stretches between the marks. -/
def stretches (mark : Char) : List Char → List (List Char)
  | [] => [[]]
  | c :: rest =>
    if c = mark then [] :: stretches mark rest
    else match stretches mark rest with
      | [] => [[c]]
      | first :: others => (c :: first) :: others

/-- What stands before the first mark of a text and what stands behind it is determined. -/
theorem append_cons_inj_of_first {mark : Char} {before before' after after' : List Char}
    (hbefore : mark ∉ before) (hbefore' : mark ∉ before')
    (h : before ++ mark :: after = before' ++ mark :: after') : before = before' ∧ after = after' := by
  induction before generalizing before' with
  | nil =>
    cases before' with
    | nil => exact ⟨rfl, List.tail_eq_of_cons_eq h⟩
    | cons c rest =>
      obtain ⟨rfl, -⟩ := List.cons.inj h
      exact absurd (.head _) hbefore'
  | cons c rest ih =>
    cases before' with
    | nil =>
      obtain ⟨rfl, -⟩ := List.cons.inj h
      exact absurd (.head _) hbefore
    | cons c' rest' =>
      obtain ⟨rfl, hrest⟩ := List.cons.inj h
      obtain ⟨rfl, hafter⟩ := ih (fun hmem ↦ hbefore (.tail _ hmem)) (fun hmem ↦ hbefore' (.tail _ hmem)) hrest
      exact ⟨rfl, hafter⟩

/-- So is what stands before and behind the last mark. -/
theorem append_cons_inj_of_last {mark : Char} {before before' after after' : List Char}
    (hafter : mark ∉ after) (hafter' : mark ∉ after')
    (h : before ++ mark :: after = before' ++ mark :: after') : before = before' ∧ after = after' := by
  have hreversed : after.reverse ++ mark :: before.reverse = after'.reverse ++ mark :: before'.reverse := by
    simpa using congrArg List.reverse h
  obtain ⟨hback, hfront⟩ := append_cons_inj_of_first (by simpa using hafter) (by simpa using hafter') hreversed
  exact ⟨List.reverse_inj.1 hfront, List.reverse_inj.1 hback⟩

end FleetAgent.Text
