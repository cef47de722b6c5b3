import FleetAgent.FileTree.Calls
import FleetAgent.Proofs.FileFrames

/-!
# Where paths lead

The way of a path leads through directories alone, so the text of a path and the place where it begins
say where it leads, if it leads anywhere: that is its `goal`. A path that names an entry names the same
entry as long as directories stay directories.
-/

namespace FleetAgent

namespace Text

theorem stretches_ne_nil (mark : Char) (text : List Char) : stretches mark text ≠ [] := by
  cases text with
  | nil => exact List.cons_ne_nil [] []
  | cons c rest =>
    rw [stretches]
    split
    · exact List.cons_ne_nil _ _
    · split <;> exact List.cons_ne_nil _ _

/-- The stretches in front of a mark, and those behind it. -/
theorem stretches_append (mark : Char) (before after : List Char) :
    stretches mark (before ++ mark :: after) = stretches mark before ++ stretches mark after := by
  induction before with
  | nil => rw [List.nil_append, stretches.eq_def mark (mark :: after)]; simp [stretches]
  | cons c rest ih =>
    rw [List.cons_append, stretches, stretches, ih]
    split
    · rfl
    · cases hrest : stretches mark rest with
      | nil => exact absurd hrest (stretches_ne_nil mark rest)
      | cons head tail => rfl

theorem stretches_of_not_mem {mark : Char} {name : List Char} (h : mark ∉ name) :
    stretches mark name = [name] := by
  induction name with
  | nil => rfl
  | cons c rest ih =>
    obtain ⟨hc, hrest⟩ := List.ne_and_not_mem_of_not_mem_cons h
    rw [stretches, if_neg hc.symm, ih hrest]

end Text

namespace Path

/-- The name is one that an entry of a directory can have. -/
structure IsEntryName (name : Name) : Prop where
  ne_nil : name ≠ []
  noSlash : '/' ∉ name
  moves : ¬ (name = ['.'] ∨ name = ['.', '.'])

instance (name : Name) : Decidable (IsEntryName name) :=
  decidable_of_iff (name ≠ [] ∧ '/' ∉ name ∧ ¬ (name = ['.'] ∨ name = ['.', '.']))
    ⟨fun ⟨hne, hslash, hmoves⟩ ↦ ⟨hne, hslash, hmoves⟩, fun h ↦ ⟨h.ne_nil, h.noSlash, h.moves⟩⟩

theorem isAbsolute_of_noSlash {name : Name} (h : '/' ∉ name) : Path.isAbsolute ⟨name⟩ = false := by
  cases name with
  | nil => rfl
  | cons c rest =>
    have hc : c ≠ '/' := fun hc ↦ h (hc ▸ List.mem_cons_self)
    simpa [isAbsolute] using hc

theorem isAbsolute_join_relative (directory : Path) {path : Path} (h : path.isAbsolute = false) :
    (directory.join path).isAbsolute = directory.isAbsolute := by
  unfold join
  rw [h, if_neg Bool.false_ne_true]
  cases hchars : directory.chars with
  | nil =>
    rw [if_pos (.inl rfl), List.nil_append, h]
    simp [isAbsolute, hchars]
  | cons c rest => split <;> simp [isAbsolute, hchars]

theorem isAbsolute_join (directory : Path) {name : Name} (h : '/' ∉ name) :
    (directory.join ⟨name⟩).isAbsolute = directory.isAbsolute :=
  directory.isAbsolute_join_relative (isAbsolute_of_noSlash h)

/-- Behind a separator at the end there is an empty stretch. -/
theorem stretches_of_slash {chars : List Char} (h : chars.getLast? = some '/') :
    ∃ before, chars = before ++ ['/'] ∧ stretches chars = stretches before ++ [[]] := by
  obtain ⟨before, rfl⟩ := List.getLast?_eq_some_iff.1 h
  exact ⟨before, rfl, Text.stretches_append '/' before []⟩

/-- The stretches of a directory, without an empty one at their end. -/
def way (directory : Path) : List Name :=
  if directory.chars = [] ∨ directory.chars.getLast? = some '/' then (stretches directory.chars).dropLast
  else stretches directory.chars

theorem stretches_eq_way (directory : Path) :
    stretches directory.chars = directory.way ∨ stretches directory.chars = directory.way ++ [[]] := by
  unfold way
  split
  · next hends =>
    rcases hends with hempty | hslash
    · rw [hempty]
      exact .inr rfl
    · obtain ⟨before, -, hsplit⟩ := stretches_of_slash hslash
      rw [hsplit, List.dropLast_concat]
      exact .inr rfl
  · exact .inl rfl

/-- The stretches of a path behind a directory. -/
theorem stretches_join_relative (directory : Path) {path : Path} (h : path.isAbsolute = false) :
    stretches (directory.join path).chars = directory.way ++ stretches path.chars := by
  unfold join way
  rw [h, if_neg Bool.false_ne_true]
  split
  · next hends =>
    rcases hends with hempty | hslash
    · rw [hempty, List.nil_append]
      rfl
    · obtain ⟨before, hbefore, hsplit⟩ := stretches_of_slash hslash
      rw [hsplit, List.dropLast_concat, hbefore, List.append_assoc]
      exact Text.stretches_append '/' before path.chars
  · exact Text.stretches_append '/' _ path.chars

theorem stretches_join (directory : Path) {name : Name} (h : '/' ∉ name) :
    stretches (directory.join ⟨name⟩).chars = directory.way ++ [name] := by
  have hname : stretches name = [name] := Text.stretches_of_not_mem h
  rw [stretches_join_relative directory (isAbsolute_of_noSlash h), hname]

/-- The name is the last stretch that says something. -/
theorem dropWhile_stretches_join (directory : Path) {name : Name} (h : IsEntryName name) :
    (stretches (directory.join ⟨name⟩).chars).reverse.dropWhile (· = []) = name :: directory.way.reverse := by
  rw [stretches_join directory h.noSlash, List.reverse_append, List.reverse_singleton, List.singleton_append,
    List.dropWhile_cons_of_neg (by simpa using h.ne_nil)]

/-- Behind the last stretch that says something there are nothing but empty ones. -/
theorem stretches_of_dropWhile {path : Path} {last : Name} {above : List Name}
    (h : (stretches path.chars).reverse.dropWhile (· = []) = last :: above) :
    ∃ blanks, stretches path.chars = above.reverse ++ ([last] ++ blanks) ∧ ∀ blank ∈ blanks, blank = [] := by
  refine ⟨((stretches path.chars).reverse.takeWhile (· = [])).reverse, ?_, fun blank hblank ↦ ?_⟩
  · rw [← List.reverse_reverse (stretches path.chars),
      ← List.takeWhile_append_dropWhile (p := (· = [])) (l := (stretches path.chars).reverse),
      List.reverse_append, h, List.reverse_cons, List.append_assoc]
    simp [← h]
  · have hall := List.all_takeWhile (p := fun stretch : Name ↦ decide (stretch = []))
      (l := (stretches path.chars).reverse)
    simpa using List.all_eq_true.1 hall blank (List.mem_reverse.1 hblank)

end Path

namespace FileTree

variable {tree later : FileTree} {path directory : Path} {name : Name}

/-! ## The goal of a path -/

theorem byteCount_append (chars more : List Char) :
    byteCount (chars ++ more) = byteCount chars + byteCount more := by
  have hfrom (count : Nat) (chars : List Char) :
      chars.foldl (fun count c ↦ count + c.utf8Size) count = count + byteCount chars := by
    induction chars generalizing count with
    | nil => rfl
    | cons c rest ih =>
      unfold byteCount
      rw [List.foldl_cons, List.foldl_cons, ih, ih (0 + c.utf8Size), Nat.zero_add, Nat.add_assoc]
  rw [byteCount, List.foldl_append, hfrom, ← byteCount]

/-- Where the text of a path is in order, so is that of the directory. -/
theorem textFault?_of_join (hshown : directory.chars ≠ []) (hname : '/' ∉ name)
    (h : textFault? (directory.join ⟨name⟩) = none) : textFault? directory = none := by
  obtain ⟨more, hmore⟩ : ∃ more, (directory.join ⟨name⟩).chars = directory.chars ++ more := by
    unfold Path.join
    rw [Path.isAbsolute_of_noSlash hname, if_neg Bool.false_ne_true]
    split
    · exact ⟨_, rfl⟩
    · exact ⟨_, rfl⟩
  unfold textFault? at h ⊢
  rw [hmore, byteCount_append] at h
  grind

/-- One stretch further, by its text alone. -/
def walk (location : Location) (stretch : Name) : Location :=
  if stretch = [] ∨ stretch = ['.'] then location
  else if stretch = ['.', '.'] then location.dropLast
  else location ++ [stretch]

theorem walk_of_isEntryName (h : Path.IsEntryName name) (location : Location) :
    walk location name = location ++ [name] := by
  have hidle : ¬ (name = [] ∨ name = ['.']) := not_or.2 ⟨h.ne_nil, fun hdot ↦ h.moves (.inl hdot)⟩
  rw [walk, if_neg hidle, if_neg fun hdots ↦ h.moves (.inr hdots)]

def goal (tree : FileTree) (path : Path) : Location :=
  (Path.stretches path.chars).foldl walk (tree.start path)

/-- Where a path leads is not changed by anything that keeps directories. -/
theorem KeepsDirs.goal (h : KeepsDirs tree later) (path : Path) : later.goal path = tree.goal path := by
  rw [FileTree.goal, FileTree.goal, start, start, h.here]

theorem foldl_walk_way (directory : Path) (location : Location) :
    directory.way.foldl walk location = (Path.stretches directory.chars).foldl walk location := by
  rcases directory.stretches_eq_way with hway | hway
  · rw [hway]
  · rw [hway, List.foldl_append, List.foldl_cons, List.foldl_nil, walk, if_pos (.inl rfl)]

theorem goal_join_relative (tree : FileTree) (directory : Path) (h : path.isAbsolute = false) :
    tree.goal (directory.join path) = (Path.stretches path.chars).foldl walk (tree.goal directory) := by
  rw [goal, goal, start, start, Path.isAbsolute_join_relative directory h,
    Path.stretches_join_relative directory h, List.foldl_append, foldl_walk_way]

/-- The name of an entry leads one step on from where its directory leads. -/
theorem goal_join (tree : FileTree) (directory : Path) (h : Path.IsEntryName name) :
    tree.goal (directory.join ⟨name⟩) = tree.goal directory ++ [name] := by
  have hname : Path.stretches name = [name] := Text.stretches_of_not_mem h.noSlash
  rw [goal_join_relative tree directory (Path.isAbsolute_of_noSlash h.noSlash), hname, List.foldl_cons,
    List.foldl_nil, walk_of_isEntryName h]

theorem foldl_walk_of_blank {blanks : List Name} (h : ∀ blank ∈ blanks, blank = []) (location : Location) :
    blanks.foldl walk location = location := by
  induction blanks with
  | nil => rfl
  | cons blank rest ih =>
    rw [List.foldl_cons, h blank List.mem_cons_self, walk, if_pos (.inl rfl)]
    exact ih fun other hother ↦ h other (List.mem_cons_of_mem _ hother)

/-- A path that can be followed leads where its text says. -/
theorem foldl_walk_of_follow {location found : Location} {names : List Name}
    (h : tree.follow location names = .ok found) : names.foldl walk location = found := by
  induction names generalizing location with
  | nil => exact Except.ok.inj h
  | cons name rest ih =>
    unfold follow at h
    rw [List.foldl_cons, walk]
    split at h
    · split at h
      · next hidle => rw [if_pos hidle, ih h]
      · next hidle =>
        rw [if_neg hidle]
        split at h
        · next hup => rw [if_pos hup, ih h]
        · next hup =>
          rw [if_neg hup]
          split at h
          · cases h
          · split at h
            · exact ih h
            · cases h
    · cases h
    · cases h

theorem follow_append (tree : FileTree) (location : Location) (names more : List Name) :
    tree.follow location (names ++ more) =
      tree.follow location names >>= fun found ↦ tree.follow found more := by
  induction names generalizing location with
  | nil => rfl
  | cons name rest ih =>
    simp only [List.cons_append, follow]
    split
    · simp only [ih]
      split
      · rfl
      · split
        · rfl
        · split
          · rfl
          · split <;> rfl
    · rfl
    · rfl

/-- Following names from a directory comes to a directory. -/
theorem dirAt_of_follow {location found : Location} {names : List Name}
    (h : tree.follow location names = .ok found) (hdir : tree.DirAt found) : tree.DirAt location := by
  cases names with
  | nil =>
    obtain rfl := Except.ok.inj h
    exact hdir
  | cons name rest =>
    unfold follow at h
    split at h
    · next entries hat => exact ⟨entries, hat⟩
    · cases h
    · cases h

/-- Going on by a name, there is an entry of that name in a directory. -/
theorem follow_cons_eq_ok {location found : Location} {rest : List Name}
    (h : tree.follow location (name :: rest) = .ok found) (hidle : ¬ (name = [] ∨ name = ['.']))
    (hup : name ≠ ['.', '.']) :
    tree.DirAt location ∧ ¬ longestName < byteCount name ∧ (tree.at? (location ++ [name])).isSome := by
  unfold follow at h
  split at h
  · next entries hat =>
    rw [if_neg hidle, if_neg hup] at h
    split at h
    · cases h
    · next hshort =>
      split at h
      · next hchild => exact ⟨⟨entries, hat⟩, hshort, by rwa [at?_below_dir name hat]⟩
      · cases h
  · cases h
  · cases h

/-- The way to a directory stays the same as long as the places that it leads through are directories. -/
theorem follow_of_kept {location found : Location} {names : List Name}
    (h : tree.follow location names = .ok found) (hdir : tree.DirAt found)
    (hkept : ∀ above rest, rest <:+ names → tree.follow above rest = .ok found → later.DirAt above) :
    later.follow location names = .ok found := by
  induction names generalizing location with
  | nil => exact h
  | cons name rest ih =>
    obtain ⟨entries, hat⟩ := dirAt_of_follow h hdir
    obtain ⟨kept, hlater⟩ := hkept location (name :: rest) List.suffix_rfl h
    replace ih {location : Location} (h : tree.follow location rest = .ok found) :
        later.follow location rest = .ok found :=
      ih h fun above more hmore ↦ hkept above more (hmore.trans (List.suffix_cons name rest))
    unfold FileTree.follow at h ⊢
    simp only [hat] at h
    simp only [hlater]
    split at h
    · next hidle => rw [if_pos hidle]; exact ih h
    · next hidle =>
      rw [if_neg hidle]
      split at h
      · next hup => rw [if_pos hup]; exact ih h
      · next hup =>
        rw [if_neg hup]
        split at h
        · cases h
        · next hlong =>
          rw [if_neg hlong]
          split at h
          · obtain ⟨below, hbelow⟩ := hkept _ rest (List.suffix_cons name rest) h
            rw [at?_below_dir name hlater] at hbelow
            rw [if_pos (by simp [hbelow])]
            exact ih h
          · cases h

/-- What can be followed to a directory can still be followed when all directories are kept. -/
theorem KeepsDirs.follow (hkeeps : KeepsDirs tree later) {location found : Location}
    {names : List Name} (h : tree.follow location names = .ok found) (hdir : tree.DirAt found) :
    later.follow location names = .ok found :=
  follow_of_kept h hdir fun above _ _ hfollow ↦ hkeeps.dirs above (dirAt_of_follow hfollow hdir)

/-! ## Entries -/

/-- The path names the entry of that name in that directory. -/
structure Names (tree : FileTree) (path : Path) (parent : Location) (name : Name) (asDir : Bool) :
    Prop where
  text : textFault? path = none
  way : ∃ above, (Path.stretches path.chars).reverse.dropWhile (· = []) = name :: above ∧
    tree.follow (tree.start path) above.reverse = .ok parent ∧
    asDir = decide ((name :: above).length < (Path.stretches path.chars).length)
  moves : ¬ (name = ['.'] ∨ name = ['.', '.'])
  short : ¬ longestName < byteCount name
  dir : tree.DirAt parent

theorem Names.place_eq {parent : Location} {asDir : Bool} (h : tree.Names path parent name asDir) :
    tree.place path = .ok (.entry parent name asDir) := by
  obtain ⟨above, hfull, hfollow, rfl⟩ := h.way
  obtain ⟨entries, hentries⟩ := h.dir
  unfold place
  simp only [h.text, hfull, if_neg h.moves, hfollow, bind, Except.bind, hentries, if_neg h.short]
  rfl

/-- A path has the place of an entry only when it names that entry. -/
theorem names_of_place_eq {parent : Location} {asDir : Bool}
    (h : tree.place path = .ok (.entry parent name asDir)) : tree.Names path parent name asDir := by
  cases htext : textFault? path with
  | some fault => simp [place, htext] at h
  | none =>
    cases hfull : (Path.stretches path.chars).reverse.dropWhile (· = []) with
    | nil => simp [place, htext, hfull] at h
    | cons last above =>
      by_cases hmoves : last = ['.'] ∨ last = ['.', '.']
      · cases hfollow : tree.follow (tree.start path) (Path.stretches path.chars) <;>
          simp [place, htext, hfull, hmoves, hfollow, bind, Except.bind, pure, Except.pure] at h
      · unfold place at h
        simp only [htext, hfull, if_neg hmoves] at h
        cases hfollow : tree.follow (tree.start path) above.reverse with
        | error fault => simp [hfollow, bind, Except.bind] at h
        | ok found =>
          simp only [hfollow, bind, Except.bind] at h
          split at h
          · next entries hentries =>
            split at h
            · cases h
            · next hshort =>
              cases h
              exact ⟨htext, ⟨above, hfull, hfollow, rfl⟩, hmoves, hshort, entries, hentries⟩
          · cases h

/-- A path still names the same entry when all directories are kept. -/
theorem KeepsDirs.names (hkeeps : KeepsDirs tree later) {parent : Location} {asDir : Bool}
    (h : tree.Names path parent name asDir) : later.Names path parent name asDir := by
  obtain ⟨above, hway, hfollow, hasDir⟩ := h.way
  have hstart : later.start path = tree.start path := by
    unfold start
    rw [hkeeps.here]
  refine ⟨h.text, ⟨above, hway, ?_, hasDir⟩, h.moves, h.short, hkeeps.dirs _ h.dir⟩
  rw [hstart]
  exact hkeeps.follow hfollow h.dir

theorem Names.name_ne_nil {parent : Location} {asDir : Bool} (h : tree.Names path parent name asDir) :
    name ≠ [] := by
  intro hempty
  obtain ⟨above, hway, -⟩ := h.way
  have hhead := List.head?_dropWhile_not (· = []) (Path.stretches path.chars).reverse
  rw [hway] at hhead
  simp [hempty] at hhead

/-- A path that names an entry leads there. -/
theorem Names.goal {parent : Location} {asDir : Bool} (h : tree.Names path parent name asDir) :
    tree.goal path = parent ++ [name] := by
  obtain ⟨above, hway, hfollow, -⟩ := h.way
  obtain ⟨blanks, hsplit, hblank⟩ := Path.stretches_of_dropWhile hway
  have hstill : ¬ (name = [] ∨ name = ['.']) :=
    not_or.2 ⟨h.name_ne_nil, fun hdot ↦ h.moves (.inl hdot)⟩
  rw [FileTree.goal, hsplit, List.foldl_append, List.foldl_append, foldl_walk_of_follow hfollow,
    foldl_walk_of_blank hblank, List.foldl_cons, List.foldl_nil, walk, if_neg hstill,
    if_neg fun hdots ↦ h.moves (.inr hdots)]

/-- The path names an entry of a directory, with no separator behind the name. -/
def NamesEntry (tree : FileTree) (path : Path) : Prop :=
  ∃ parent name, tree.Names path parent name false

theorem KeepsDirs.namesEntry (hkeeps : KeepsDirs tree later) (h : tree.NamesEntry path) :
    later.NamesEntry path := by
  obtain ⟨parent, name, hnames⟩ := h
  exact ⟨parent, name, hkeeps.names hnames⟩

theorem NamesEntry.goal_concat (h : tree.NamesEntry path) :
    ∃ parent name, tree.goal path = parent ++ [name] ∧ tree.DirAt parent := by
  obtain ⟨parent, name, hnames⟩ := h
  exact ⟨parent, name, hnames.goal, hnames.dir⟩

theorem start_join (tree : FileTree) (directory : Path) (hname : '/' ∉ name) :
    tree.start (directory.join ⟨name⟩) = tree.start directory := by
  rw [start, start, Path.isAbsolute_join directory hname]

/-- Where the name follows a directory that is there, and both fit, the path names an entry. -/
theorem namesEntry_join_iff (hname : Path.IsEntryName name) :
    tree.NamesEntry (directory.join ⟨name⟩) ↔
      textFault? (directory.join ⟨name⟩) = none ∧ byteCount name ≤ longestName ∧
        ∃ location, tree.follow (tree.start directory) directory.way = .ok location ∧ tree.DirAt location := by
  have hreverse := Path.dropWhile_stretches_join directory hname
  constructor
  · rintro ⟨parent, last, hnames⟩
    obtain ⟨above, hway, hfollow, -⟩ := hnames.way
    obtain ⟨rfl, rfl⟩ := List.cons.inj (hreverse.symm.trans hway)
    rw [List.reverse_reverse, start_join tree directory hname.noSlash] at hfollow
    exact ⟨hnames.text, Nat.le_of_not_lt hnames.short, parent, hfollow, hnames.dir⟩
  · rintro ⟨htext, hshort, location, hway, hdir⟩
    refine ⟨location, name, htext, ⟨directory.way.reverse, hreverse, ?_, ?_⟩, hname.moves, Nat.not_lt.2 hshort,
      hdir⟩
    · rw [List.reverse_reverse, start_join tree directory hname.noSlash, hway]
    · simp [Path.stretches_join directory hname.noSlash]

theorem follow_way {location : Location}
    (h : tree.follow (tree.start directory) (Path.stretches directory.chars) = .ok location) :
    tree.follow (tree.start directory) directory.way = .ok location := by
  rcases directory.stretches_eq_way with hends | hends
  · rwa [hends] at h
  · rw [hends, follow_append] at h
    cases hfound : tree.follow (tree.start directory) directory.way with
    | error fault => simp [hfound, bind, Except.bind] at h
    | ok found =>
      have hlast : tree.follow found [[]] = .ok location := by
        simpa [hfound, bind, Except.bind] using h
      exact congrArg Except.ok (foldl_walk_of_follow hlast)

/-- A path whose name follows a directory that is there. -/
theorem namesEntry_join {location : Location} (hname : Path.IsEntryName name)
    (hway : tree.follow (tree.start directory) (Path.stretches directory.chars) = .ok location)
    (hdir : tree.DirAt location) (htext : textFault? (directory.join ⟨name⟩) = none)
    (hshort : byteCount name ≤ longestName) : tree.NamesEntry (directory.join ⟨name⟩) :=
  (namesEntry_join_iff hname).2 ⟨htext, hshort, location, follow_way hway, hdir⟩

/-- A path that names an entry leads to it, if there is one. -/
theorem NamesEntry.locate_eq (h : tree.NamesEntry path) :
    tree.locate path = if (tree.at? (tree.goal path)).isSome then .ok (tree.goal path) else .error .notFound := by
  obtain ⟨parent, name, hnames⟩ := h
  obtain ⟨above, hway, hfollow, hasDir⟩ := hnames.way
  have hwhole : (Path.stretches path.chars).reverse = name :: above := by
    have hsuffix := List.dropWhile_suffix (l := (Path.stretches path.chars).reverse) (· = [])
    rw [hway] at hsuffix
    refine (hsuffix.eq_of_length_le ?_).symm
    simpa using hasDir
  have hstretches : Path.stretches path.chars = above.reverse ++ [name] := by
    rw [← List.reverse_reverse (Path.stretches path.chars), hwhole, List.reverse_cons]
  obtain ⟨entries, hdir⟩ := hnames.dir
  rw [hnames.goal, at?_below_dir name hdir]
  unfold FileTree.locate
  rw [hnames.text]
  simp only
  rw [hstretches, follow_append, hfollow]
  have hstill : ¬ (name = [] ∨ name = ['.']) :=
    not_or.2 ⟨hnames.name_ne_nil, fun hdot ↦ hnames.moves (.inl hdot)⟩
  have hup : ¬ name = ['.', '.'] := fun hdots ↦ hnames.moves (.inr hdots)
  simp only [bind, Except.bind, follow, hdir, if_neg hstill, if_neg hup, if_neg hnames.short]

theorem NamesEntry.exists? (h : tree.NamesEntry path) :
    tree.exists? path = (tree.at? (tree.goal path)).isSome := by
  rw [FileTree.exists?, h.locate_eq]
  split
  · next hsome => rw [hsome]; rfl
  · next hnone => rw [Bool.eq_false_iff.2 hnone]; rfl

/-- The file that the path names holds the content. -/
structure Holds (tree : FileTree) (path : Path) (content : ByteArray) : Prop where
  names : tree.NamesEntry path
  file : tree.at? (tree.goal path) = some (.file content)

namespace Holds

variable {content : ByteArray}

theorem locate (h : tree.Holds path content) : tree.locate path = .ok (tree.goal path) :=
  h.names.locate_eq.trans (if_pos (by rw [h.file]; rfl))

theorem read (h : tree.Holds path content) : tree.read path = .ok content := by
  unfold FileTree.read
  rw [h.locate]
  simp only [bind, Except.bind, h.file]
  rfl

theorem fileAt? (h : tree.Holds path content) : tree.fileAt? (tree.goal path) = some content :=
  fileAt?_of_file h.file

end Holds

/-- A file holds the same content while others are changed. -/
theorem Keeps.holds {changed : Location → Prop} (hkeeps : Keeps changed tree later) {content : ByteArray}
    (h : tree.Holds path content) (hkept : ¬ changed (tree.goal path)) : later.Holds path content := by
  refine ⟨hkeeps.toKeepsDirs.namesEntry h.names, at?_of_fileAt? ?_⟩
  rw [hkeeps.toKeepsDirs.goal, hkeeps.files _ hkept, h.fileAt?]

end FileTree

end FleetAgent
