import FleetAgent.Proofs.FilePaths
import FleetAgent.Settings.Basic
import Mathlib.Data.List.Basic

/-!
# Paths below the served directory

A request is read from its stretches alone, with the served directory for its root: a name leads one step
further down, two dots lead one step back up where there is one, and nothing else says anything. What is
left are names, so a path that follows the served directory with them has the components of the directory in
front and goes down from there. The same names asked for are the same path.
-/

namespace FleetAgent

namespace Text

theorem not_mem_of_mem_stretches {mark : Char} {text stretch : List Char} (h : stretch ∈ stretches mark text) :
    mark ∉ stretch := by
  induction text generalizing stretch with
  | nil =>
    rw [stretches, List.mem_singleton] at h
    rw [h]
    exact List.not_mem_nil
  | cons c rest ih =>
    rw [stretches] at h
    split at h
    · rcases List.mem_cons.1 h with rfl | h
      · exact List.not_mem_nil
      · exact ih h
    · next hc =>
      split at h
      · next hrest => exact absurd hrest (stretches_ne_nil mark rest)
      · next first others hrest =>
        rw [hrest] at ih
        rcases List.mem_cons.1 h with rfl | h
        · exact List.not_mem_cons_of_ne_of_not_mem (Ne.symm hc) (ih List.mem_cons_self)
        · exact ih (List.mem_cons_of_mem _ h)

end Text

namespace FileTree

variable {location : Location} {names : List Name}

theorem foldl_walk_names (h : ∀ name ∈ names, Path.IsEntryName name) (location : Location) :
    names.foldl walk location = location ++ names := by
  induction names generalizing location with
  | nil => exact (List.append_nil location).symm
  | cons name rest ih =>
    rw [List.forall_mem_cons] at h
    rw [List.foldl_cons, walk_of_isEntryName h.1, ih h.2, List.append_assoc, List.singleton_append]

/-- No walk leads to anything but names. -/
theorem isEntryName_of_mem_walk {stretch name : Name} (hlocation : ∀ name ∈ location, Path.IsEntryName name)
    (hstretch : '/' ∉ stretch) (h : name ∈ walk location stretch) : Path.IsEntryName name := by
  unfold walk at h
  split at h
  · exact hlocation name h
  · next hidle =>
    rw [not_or] at hidle
    split at h
    · exact hlocation name (List.mem_of_mem_dropLast h)
    · next hup =>
      rcases List.mem_append.1 h with h | h
      · exact hlocation name h
      · rw [List.mem_singleton.1 h]
        exact ⟨hidle.1, hstretch, not_or.2 ⟨hidle.2, hup⟩⟩

/-- Walking leaves only names of entries behind: no empty one, no dot, no step up. -/
theorem isEntryName_of_mem_foldl_walk {stretches : List Name}
    (hlocation : ∀ name ∈ location, Path.IsEntryName name) (hstretches : ∀ stretch ∈ stretches, '/' ∉ stretch) :
    ∀ name ∈ stretches.foldl walk location, Path.IsEntryName name := by
  induction stretches generalizing location with
  | nil => exact hlocation
  | cons stretch rest ih =>
    rw [List.forall_mem_cons] at hstretches
    rw [List.foldl_cons]
    exact ih (fun name ↦ isEntryName_of_mem_walk hlocation hstretches.1) hstretches.2

theorem sublist_walk (location : Location) (stretch : Name) :
    (walk location stretch).Sublist (location ++ [stretch]) := by
  unfold walk
  split
  · exact List.sublist_append_left location [stretch]
  · split
    · exact (List.dropLast_sublist location).trans (List.sublist_append_left location [stretch])
    · exact List.Sublist.refl _

/-- A walk invents no names and keeps their order. -/
theorem sublist_foldl_walk (location : Location) (stretches : List Name) :
    (stretches.foldl walk location).Sublist (location ++ stretches) := by
  induction stretches generalizing location with
  | nil => rw [List.foldl_nil, List.append_nil]
  | cons stretch rest ih =>
    have hstep := (sublist_walk location stretch).append_right rest
    rw [List.append_assoc, List.singleton_append] at hstep
    exact (ih (walk location stretch)).trans hstep

end FileTree

namespace Path

variable {names : List Name}

/-! ## Names behind a directory -/

theorem stretches_ofNames (h : ∀ name ∈ names, IsEntryName name) (hne : names ≠ []) :
    stretches (ofNames names).chars = names := by
  induction names using ofNames.induct with
  | case1 => exact absurd rfl hne
  | case2 name => exact Text.stretches_of_not_mem (h name List.mem_cons_self).noSlash
  | case3 name rest hrest ih =>
    rw [List.forall_mem_cons] at h
    have hname := Text.stretches_of_not_mem h.1.noSlash
    have hbehind := ih h.2 fun hempty ↦ hrest hempty
    rw [ofNames.eq_3 _ _ hrest, stretches, Text.stretches_append, hname, List.singleton_append]
    exact congrArg (name :: ·) hbehind

theorem exists_ofNames_cons (name : Name) (rest : List Name) :
    ∃ behind, (ofNames (name :: rest)).chars = name ++ behind := by
  cases rest with
  | nil => exact ⟨[], (List.append_nil name).symm⟩
  | cons next others => exact ⟨_, rfl⟩

theorem isAbsolute_ofNames (h : ∀ name ∈ names, IsEntryName name) : (ofNames names).isAbsolute = false := by
  cases names with
  | nil => rfl
  | cons name rest =>
    have hname := h name List.mem_cons_self
    have hrelative := isAbsolute_of_noSlash hname.noSlash
    obtain ⟨behind, hchars⟩ := exists_ofNames_cons name rest
    obtain ⟨c, more, rfl⟩ := List.exists_cons_of_ne_nil hname.ne_nil
    rw [isAbsolute, hchars]
    exact hrelative

/-- The steps that lead to names are the names. -/
theorem filterMap_step?_names (h : ∀ name ∈ names, IsEntryName name) :
    names.filterMap step? = names.map .name := by
  rw [← List.filterMap_eq_map]
  apply List.filterMap_congr
  intro name hname
  have hentry := h name hname
  have hidle : ¬ (name = [] ∨ name = ['.']) := not_or.2 ⟨hentry.ne_nil, fun hdot ↦ hentry.moves (.inl hdot)⟩
  rw [step?, if_neg hidle, if_neg fun hdots ↦ hentry.moves (.inr hdots)]
  rfl

theorem head?_stretches_ofNames (h : ∀ name ∈ names, IsEntryName name) :
    (stretches (ofNames names).chars).head? ≠ some ['.'] := by
  cases names with
  | nil => decide
  | cons name rest =>
    rw [stretches_ofNames h (List.cons_ne_nil name rest), List.head?_cons, Ne, Option.some.injEq]
    exact fun hdot ↦ (h name List.mem_cons_self).moves (.inl hdot)

/-- A path made of names has just these names as its steps. -/
theorem components_ofNames (h : ∀ name ∈ names, IsEntryName name) :
    (ofNames names).components = names.map .name := by
  have hsteps : (stretches (ofNames names).chars).filterMap step? = names.map .name := by
    cases names with
    | nil => rfl
    | cons name rest => rw [stretches_ofNames h (List.cons_ne_nil name rest), filterMap_step?_names h]
  unfold components
  dsimp only
  rw [isAbsolute_ofNames h, if_neg Bool.false_ne_true, if_neg (head?_stretches_ofNames h), hsteps]

/-- Joining a path that begins with neither a separator nor a dot adds its steps behind those of the
directory. -/
theorem components_join (directory : Path) {path : Path} (hrelative : path.isAbsolute = false)
    (hdot : (stretches path.chars).head? ≠ some ['.']) :
    (directory.join path).components = directory.components ++ path.components := by
  have hsteps : directory.way.filterMap step? = (stretches directory.chars).filterMap step? := by
    rcases directory.stretches_eq_way with hway | hway
    · rw [hway]
    · rw [hway, List.filterMap_append, List.filterMap_cons_none (by rw [step?, if_pos (.inl rfl)]),
        List.filterMap_nil, List.append_nil]
  have hhead : (directory.way ++ stretches path.chars).head? = some ['.'] ↔
      (stretches directory.chars).head? = some ['.'] := by
    rcases directory.stretches_eq_way with hends | hends
    · rw [← hends]
      obtain ⟨first, rest, hfull⟩ := List.exists_cons_of_ne_nil (Text.stretches_ne_nil '/' directory.chars)
      rw [stretches, hfull, List.cons_append, List.head?_cons, List.head?_cons]
    · rw [hends]
      cases directory.way with
      | nil => exact iff_of_false hdot (by decide)
      | cons first rest => rw [List.cons_append, List.cons_append, List.head?_cons, List.head?_cons]
  unfold components
  rw [isAbsolute_join_relative directory hrelative, stretches_join_relative directory hrelative, hrelative,
    List.filterMap_append, hsteps]
  simp only [hhead, hdot, if_false, Bool.false_eq_true]
  split
  · rfl
  · split <;> rfl

/-! ## Reading a request -/

/-- The names that a request leads through when the place where it begins is taken for the root. -/
def normalised (path : Path) : List Name := (stretches path.chars).foldl FileTree.walk []

theorem isEntryName_of_mem_normalised (path : Path) : ∀ name ∈ path.normalised, IsEntryName name :=
  FileTree.isEntryName_of_mem_foldl_walk (fun _ hname ↦ absurd hname List.not_mem_nil)
    fun _ hstretch ↦ Text.not_mem_of_mem_stretches hstretch

/-- Names of entries are normalised already. -/
theorem normalised_ofNames (h : ∀ name ∈ names, IsEntryName name) : (ofNames names).normalised = names := by
  cases names with
  | nil => rfl
  | cons name rest =>
    rw [normalised, stretches_ofNames h (List.cons_ne_nil name rest), FileTree.foldl_walk_names h,
      List.nil_append]

/-- Steps lead where the stretches lead that they stand for. -/
theorem foldl_descend_steps (stretches : List Name) (names : List Name) :
    (stretches.filterMap step?).foldl descend names = stretches.foldl FileTree.walk names := by
  induction stretches generalizing names with
  | nil => rfl
  | cons stretch rest ih =>
    rw [List.foldl_cons, FileTree.walk]
    split
    · next hidle => rw [List.filterMap_cons_none (by rw [step?, if_pos hidle]), ih]
    · next hidle =>
      split
      · next hup =>
        rw [List.filterMap_cons_some (by rw [step?, if_neg hidle, if_pos hup]), List.foldl_cons, ih]
        rfl
      · next hup =>
        rw [List.filterMap_cons_some (by rw [step?, if_neg hidle, if_neg hup]), List.foldl_cons, ih]
        rfl

/-- The names that a request is confined to are those that its text leads through from the root. -/
theorem confined_eq_normalised (path : Path) : path.confined = path.normalised := by
  have hsteps : path.confined = ((stretches path.chars).filterMap step?).foldl descend [] := by
    unfold confined components
    dsimp only
    split
    · rfl
    · split <;> rfl
  rw [hsteps, foldl_descend_steps, normalised]

end Path

namespace FileTree

/-- Names behind a directory lead down from it and nowhere else. -/
theorem goal_join_ofNames (tree : FileTree) (directory : Path) {names : List Name}
    (h : ∀ name ∈ names, Path.IsEntryName name) :
    tree.goal (directory.join (.ofNames names)) = tree.goal directory ++ names := by
  rw [goal_join_relative tree directory (Path.isAbsolute_ofNames h)]
  cases names with
  | nil => exact (List.append_nil _).symm
  | cons name rest => rw [Path.stretches_ofNames h (List.cons_ne_nil name rest), foldl_walk_names h]

/-- With a separator in front, a request leads through its names in any tree. -/
theorem goal_of_slash (tree : FileTree) (path : Path) : tree.goal ⟨'/' :: path.chars⟩ = path.normalised := by
  have hstretches : Path.stretches ('/' :: path.chars) = [] :: Path.stretches path.chars :=
    Text.stretches_append '/' [] path.chars
  rw [goal, hstretches, List.foldl_cons]
  rfl

end FileTree

namespace Settings

open FleetAgent.Path

variable (settings : Settings) (path : Path)

def bootRoot : Path := settings.resolve (.ofString settings.tftpRoot)

/-- The served path is the served directory with the normalised names of the request below it. -/
theorem bootPath_eq : settings.bootPath path = settings.bootRoot.join (.ofNames path.normalised) := by
  rw [bootPath, below, confined_eq_normalised]
  rfl

/-- The steps of the served path begin with those of the served directory, and none of the others leads up.
-/
theorem components_bootPath :
    (settings.bootPath path).components = settings.bootRoot.components ++ path.normalised.map .name := by
  have hnames := path.isEntryName_of_mem_normalised
  rw [bootPath_eq, components_join _ (isAbsolute_ofNames hnames) (head?_stretches_ofNames hnames),
    components_ofNames hnames]

/-- What is served lies below the served directory, whatever is asked for. -/
theorem boot_path_stays_below :
    (settings.bootPath path).components = settings.bootRoot.components ++ path.normalised.map .name ∧
      (∀ name ∈ path.normalised, name ≠ [] ∧ '/' ∉ name ∧ name ≠ ['.'] ∧ name ≠ ['.', '.']) ∧
      (∀ tree : FileTree, tree.goal ⟨'/' :: path.chars⟩ = path.normalised) ∧
      path.normalised.Sublist (stretches path.chars) ∧
      (∀ (tree : FileTree) (n : Nat),
        tree.goal (settings.bootRoot.join (.ofNames (path.normalised.take n))) =
          tree.goal settings.bootRoot ++ path.normalised.take n) ∧
      (settings.bootPath (.ofNames path.normalised)).components = (settings.bootPath path).components := by
  have hnames := path.isEntryName_of_mem_normalised
  refine ⟨settings.components_bootPath path, fun name hname ↦ ?_, fun tree ↦ tree.goal_of_slash path,
    FileTree.sublist_foldl_walk [] _, fun tree n ↦ ?_, ?_⟩
  · obtain ⟨hne, hslash, hmoves⟩ := hnames name hname
    exact ⟨hne, hslash, not_or.1 hmoves⟩
  · exact tree.goal_join_ofNames settings.bootRoot fun name hname ↦ hnames name (List.mem_of_mem_take hname)
  · rw [components_bootPath, components_bootPath, normalised_ofNames hnames]

example : (ofString "../..//boot/./grub/../kernel/").normalised.map String.ofList = ["boot", "kernel"] := by
  decide

end Settings

end FleetAgent
