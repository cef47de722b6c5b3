import FleetAgent.Proofs.Interruption

/-!
# Making what is missing on the way

The parents of a path are beginnings of its text that end where a name ends. So whatever is made for a
path is made on the way of that path. `Laid` says of a tree and a later one that the files are the same,
apart from given places, and that nothing is new but directories on the way of the path.
-/

namespace FleetAgent

namespace Path

/-- The text of the path begins with that of the other one, which ends where a name ends. -/
def Heads (above path : Path) : Prop :=
  ∃ rest, path.chars = above.chars ++ rest ∧
    (above.chars = [] ∨ rest = [] ∨ rest.head? = some '/' ∨ above.chars.getLast? = some '/')

theorem Heads.refl (path : Path) : Heads path path := ⟨[], (List.append_nil _).symm, .inr (.inl rfl)⟩

theorem Heads.trans {first second third : Path} (h : Heads first second) (h' : Heads second third) :
    Heads first third := by
  obtain ⟨rest, hrest, hends⟩ := h
  obtain ⟨more, hmore, hmoreEnds⟩ := h'
  refine ⟨rest ++ more, by rw [hmore, hrest, List.append_assoc], ?_⟩
  rcases hends with hempty | rfl | hslash | hslash
  · exact .inl hempty
  · rw [List.append_nil] at hrest
    rw [List.nil_append, ← hrest]
    exact hmoreEnds
  · obtain ⟨tail, rfl⟩ := List.head?_eq_some_iff.1 hslash
    exact .inr (.inr (.inl rfl))
  · exact .inr (.inr (.inr hslash))

/-- What is dropped ends with a separator, unless nothing is left. -/
theorem dropIdle_split (reversed : List Char) :
    ∃ idle, reversed = idle ++ dropIdle reversed ∧
      (idle = [] ∨ idle.getLast? = some '/' ∨ dropIdle reversed = []) := by
  have hmore (c : Char) {idle rest : List Char} (mark : List Char) (hrest : rest = idle ++ dropIdle rest)
      (hends : idle = [] ∨ idle.getLast? = some '/' ∨ dropIdle rest = [])
      (hmark : (c :: mark).getLast? = some '/') :
      ∃ idle, c :: mark ++ rest = idle ++ dropIdle rest ∧
        (idle = [] ∨ idle.getLast? = some '/' ∨ dropIdle rest = []) := by
    refine ⟨c :: mark ++ idle, by rw [List.append_assoc, ← hrest], ?_⟩
    rcases hends with rfl | hslash | hnone
    · exact .inr (.inl (by rwa [List.append_nil]))
    · exact .inr (.inl (by rw [List.getLast?_append, hslash]; rfl))
    · exact .inr (.inr hnone)
  fun_induction dropIdle reversed with
  | case1 rest ih =>
    obtain ⟨idle, hrest, hends⟩ := ih
    exact hmore '/' [] hrest hends rfl
  | case2 rest ih =>
    obtain ⟨idle, hrest, hends⟩ := ih
    exact hmore '.' ['/'] hrest hends rfl
  | case3 => exact ⟨['.'], rfl, .inr (.inr rfl)⟩
  | case4 reversed => exact ⟨[], rfl, .inl rfl⟩

/-- What is cut off behind the parent begins with a separator, unless nothing is left. -/
theorem cut_split (reversed : List Char) :
    ∃ cut, reversed = cut ++ dropIdle ((reversed.dropWhile (· ≠ '/')).drop 1) ∧
      (cut.getLast? = some '/' ∨ dropIdle ((reversed.dropWhile (· ≠ '/')).drop 1) = []) := by
  have hsplit : reversed = reversed.takeWhile (· ≠ '/') ++ reversed.dropWhile (· ≠ '/') :=
    List.takeWhile_append_dropWhile.symm
  have hhead := List.head?_dropWhile_not (· ≠ '/') reversed
  cases hback : reversed.dropWhile (· ≠ '/') with
  | nil => exact ⟨reversed, (List.append_nil reversed).symm, .inr rfl⟩
  | cons c back =>
    rw [hback] at hhead
    obtain rfl : c = '/' := by simpa using hhead
    obtain ⟨idle, hidle, hends⟩ := dropIdle_split back
    refine ⟨reversed.takeWhile (· ≠ '/') ++ '/' :: idle, ?_, ?_⟩
    · rw [List.drop_one, List.tail_cons, List.append_assoc, List.cons_append, ← hidle, ← hback, ← hsplit]
    · rw [List.getLast?_append, List.drop_one, List.tail_cons]
      rcases hends with rfl | hslash | hnone
      · exact .inl rfl
      · exact .inl (by rw [List.getLast?_cons, hslash]; rfl)
      · exact .inr hnone

theorem lead_append (path : Path) : path.lead ++ path.chars.drop path.lead.length = path.chars := by
  unfold lead
  split <;> simp_all

/-- The text behind a leading dot is empty or goes on with a separator. -/
theorem lead_cases (path : Path) :
    path.lead = [] ∨ path.lead = ['/'] ∨ path.lead = ['.'] ∧
      (path.chars.drop path.lead.length = [] ∨ (path.chars.drop path.lead.length).head? = some '/') := by
  unfold lead
  split <;> simp_all

theorem heads_parent {path parent : Path} (h : path.parent? = some parent) : Heads parent path := by
  have hlead := path.lead_append
  have hcases := path.lead_cases
  unfold parent? at h
  dsimp only at h
  generalize path.lead = lead at h hlead hcases
  generalize path.chars.drop lead.length = body at h hlead hcases
  obtain ⟨idle, hidle, -⟩ := dropIdle_split body.reverse
  generalize dropIdle body.reverse = reversed at h hidle
  cases reversed with
  | nil =>
    have hparent : lead = ['.'] ∧ parent = ⟨[]⟩ := by simpa [eq_comm] using h
    obtain ⟨-, rfl⟩ := hparent
    exact ⟨path.chars, rfl, .inl rfl⟩
  | cons c back =>
    obtain rfl := Option.some.inj h
    obtain ⟨cut, hcut, hends⟩ := cut_split (c :: back)
    generalize dropIdle (((c :: back).dropWhile (· ≠ '/')).drop 1) = kept at hcut hends ⊢
    have hbody : body = kept.reverse ++ (idle ++ cut).reverse := by
      rw [← List.reverse_append, List.append_assoc, ← hcut, ← hidle, List.reverse_reverse]
    refine ⟨(idle ++ cut).reverse, by rw [List.append_assoc, ← hbody, hlead], ?_⟩
    rcases hends with hslash | rfl
    · refine .inr (.inr (.inl ?_))
      rw [List.head?_reverse, List.getLast?_append, hslash]
      rfl
    · -- The parent is nothing but the lead.
      rw [List.reverse_nil, List.append_nil]
      rcases hcases with rfl | rfl | ⟨rfl, hempty | hslash⟩
      · exact .inl rfl
      · exact .inr (.inr (.inr rfl))
      · rw [hempty] at hidle
        simp at hidle
      · rw [hbody] at hslash
        exact .inr (.inr (.inl hslash))

/-- Every parent heads the path. -/
theorem heads_of_mem_parents {path above : Path} {steps : Nat} (h : above ∈ Host.parents steps path) :
    Heads above path := by
  induction steps generalizing path with
  | zero => cases h
  | succ steps ih =>
    unfold Host.parents at h
    split at h
    · next parent hparent =>
      rcases List.mem_cons.1 h with rfl | hlater
      · exact heads_parent hparent
      · exact (ih hlater).trans (heads_parent hparent)
    · cases h

theorem Heads.isAbsolute_eq {above path : Path} (h : Heads above path) (hshown : above.chars ≠ []) :
    above.isAbsolute = path.isAbsolute := by
  obtain ⟨rest, hrest, -⟩ := h
  rw [isAbsolute, isAbsolute, hrest, List.head?_append_of_ne_nil _ hshown]

end Path

namespace FileTree

variable {tree later : FileTree} {path above : Path} {changed : Location → Prop}

/-- The location is one that the way of the path comes by. -/
def OnTheWay (tree : FileTree) (path : Path) (location : Location) : Prop :=
  ∃ names, names <+: Path.stretches path.chars ∧ names.foldl walk (tree.start path) = location

/-- What heads a path leads to a location on its way. -/
theorem onTheWay_goal (h : above.Heads path) (hshown : above.chars ≠ []) :
    tree.OnTheWay path (tree.goal above) := by
  have hstart : tree.start above = tree.start path := by
    rw [start, start, h.isAbsolute_eq hshown]
  obtain ⟨rest, hrest, hends⟩ := h
  unfold OnTheWay goal
  rw [hstart]
  rcases hends with hempty | rfl | hslash | hslash
  · exact absurd hempty hshown
  · rw [List.append_nil] at hrest
    exact ⟨_, List.prefix_rfl, by rw [hrest]⟩
  · obtain ⟨tail, rfl⟩ := List.head?_eq_some_iff.1 hslash
    refine ⟨Path.stretches above.chars, ?_, rfl⟩
    rw [hrest, Path.stretches, Path.stretches, Text.stretches_append]
    exact List.prefix_append _ _
  · obtain ⟨before, hbefore, hsplit⟩ := Path.stretches_of_slash hslash
    refine ⟨Path.stretches before, ?_, ?_⟩
    · rw [hrest, hbefore, List.append_assoc, Path.stretches, Path.stretches]
      exact Text.stretches_append '/' before rest ▸ List.prefix_append _ _
    · rw [hsplit, List.foldl_append, List.foldl_cons, List.foldl_nil, walk, if_pos (.inl rfl)]

/-- The files are the same, apart from the given places, and nothing is new but directories on the way of
the path. -/
structure Laid (path : Path) (changed : Location → Prop) (tree later : FileTree) : Prop extends
    Keeps changed tree later where
  made : ∀ location, ¬ changed location → tree.at? location = none → later.at? location ≠ none →
    tree.OnTheWay path location

theorem OnTheWay.of_here {location : Location} (h : later.OnTheWay path location)
    (hhere : later.here = tree.here) : tree.OnTheWay path location := by
  obtain ⟨names, hnames, hlocation⟩ := h
  rw [start, hhere] at hlocation
  exact ⟨names, hnames, hlocation⟩

namespace Laid

theorem refl (path : Path) (changed : Location → Prop) (tree : FileTree) : Laid path changed tree tree where
  toKeeps := .refl changed tree
  made := fun _ _ hnone hsome ↦ absurd hnone hsome

theorem trans {middle : FileTree} (h : Laid path changed tree middle)
    (h' : Laid path changed middle later) : Laid path changed tree later where
  toKeeps := h.toKeeps.trans h'.toKeeps
  made := by
    intro location hkept hnone hsome
    by_cases hmiddle : middle.at? location = none
    · exact (h'.made location hkept hmiddle hsome).of_here h.here
    · exact h.made location hkept hnone hmiddle

instance : Std.Refl (Laid path changed) := ⟨refl path changed⟩

instance : IsTrans FileTree (Laid path changed) := ⟨fun _ _ _ ↦ trans⟩

theorem mono {more : Location → Prop} (h : Laid path changed tree later)
    (hmore : ∀ location, changed location → more location) : Laid path more tree later where
  toKeeps := h.toKeeps.mono hmore
  made := fun location hkept ↦ h.made location fun hchanged ↦ hkept (hmore location hchanged)

end Laid

/-- A change of nothing but some places makes no directory elsewhere. -/
theorem ChangesOnly.laid (h : ChangesOnly changed tree later) (path : Path) :
    Laid path changed tree later where
  toKeeps := h.keeps
  made := by
    intro location hkept hnone hsome
    rw [h.same location hkept (not_dirAt_of_none hnone)] at hsome
    exact absurd hnone hsome

/-- Whatever is new is a directory, unless it was to be changed. -/
theorem Laid.dirAt {location : Location} (h : Laid path changed tree later) (hkept : ¬ changed location)
    (hnone : tree.at? location = none) (hsome : later.at? location ≠ none) : later.DirAt location := by
  have hfile := h.files location hkept
  rw [fileAt?_of_none hnone] at hfile
  by_contra hdir
  rw [← map_file_fileAt? hdir, hfile] at hsome
  exact hsome rfl

theorem textFault?_ne_none_of_empty (h : path.chars = []) : textFault? path ≠ none := by
  unfold textFault?
  rw [h]
  decide

/-- A directory on the way of a path may be made; nothing else is new. -/
theorem laid_makeDir (hheads : above.Heads path) (h : tree.makeDir above = .ok later)
    (changed : Location → Prop) : Laid path changed tree later := by
  refine ⟨keeps_makeDir h changed, fun location _ hnone hsome ↦ ?_⟩
  obtain ⟨htext, -, -, hmade⟩ := makeDir_eq_ok h
  have hshown : above.chars ≠ [] := fun hempty ↦ textFault?_ne_none_of_empty hempty htext
  obtain rfl : location = tree.goal above := by
    by_contra hother
    exact hsome ((hmade.same location hother (not_dirAt_of_none hnone)).trans hnone)
  exact onTheWay_goal hheads hshown

end FileTree

namespace Host

/-- Making a directory makes nothing but directories on its way. -/
theorem laid_makeDirs (changed : Location → Prop) (path : Path) :
    Leads (Throughout (FileTree.Laid path changed)) (makeDirs path) := by
  apply leads_makeDirsUnder_of_mem
  intro above habove
  have hheads : above.Heads path := by
    rcases List.mem_cons.1 habove with rfl | hparent
    · exact .refl _
    · exact Path.heads_of_mem_parents hparent
  exact fun _ ↦ throughout_alter fun _ hmade ↦ FileTree.laid_makeDir hheads hmade changed

end Host

end FleetAgent
