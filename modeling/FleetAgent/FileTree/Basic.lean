import FleetAgent.Path

/-!
# Trees of files and directories

A tree holds files with their content and directories with named entries, in the order of the names.
It is read at a location, the list of names that lead down from the root, and changed at one location
at a time: `at?_change_self` says what is found where the change was made, and
`at?_change_of_not_prefix` that nothing is different at any place that does not lie under it.
-/

namespace FleetAgent

/-- A file with its content, or a directory with its entries. -/
inductive FileNode where
  | file (content : ByteArray)
  | dir (entries : List (Name × FileNode))
  deriving Inhabited

/-- The names that lead from the root to a node. -/
abbrev Location := List Name

namespace FileNode

def child? (name : Name) : List (Name × FileNode) → Option FileNode
  | [] => none
  | (first, node) :: rest => if first = name then some node else child? name rest

/-- The entries with one more, or with the one of that name replaced. -/
def insertEntry (name : Name) (node : FileNode) : List (Name × FileNode) → List (Name × FileNode)
  | [] => [(name, node)]
  | (first, old) :: rest =>
    if first = name then (name, node) :: rest
    else if name < first then (name, node) :: (first, old) :: rest
    else (first, old) :: insertEntry name node rest

/-- The entries with that name bound as said: `none` leaves no such entry. -/
def setEntry (name : Name) (node? : Option FileNode) (entries : List (Name × FileNode)) :
    List (Name × FileNode) :=
  match node? with
  | some node => insertEntry name node entries
  | none => entries.filter (·.1 ≠ name)

/-- The node found at a location below this one. -/
def at? : Location → FileNode → Option FileNode
  | [], node => some node
  | name :: rest, .dir entries => (child? name entries).bind (at? rest)
  | _ :: _, .file _ => none

/-- The node with another one, or none, at a location below it. Where no directory leads to the
location nothing changes. -/
def change : Location → Option FileNode → FileNode → FileNode
  | [], node?, old => node?.getD old
  | [name], node?, .dir entries => .dir (setEntry name node? entries)
  | name :: next :: rest, node?, .dir entries =>
    match child? name entries with
    | some child => .dir (insertEntry name (change (next :: rest) node? child) entries)
    | none => .dir entries
  | _ :: _, _, .file content => .file content

def isDir : FileNode → Bool
  | .dir _ => true
  | .file _ => false

theorem child?_insertEntry (name other : Name) (node : FileNode) (entries : List (Name × FileNode)) :
    child? other (insertEntry name node entries) =
      if other = name then some node else child? other entries := by
  induction entries with
  | nil => grind [insertEntry, child?]
  | cons head rest ih => grind [insertEntry, child?]

theorem child?_filter_ne (name other : Name) (entries : List (Name × FileNode)) :
    child? other (entries.filter (·.1 ≠ name)) =
      if other = name then none else child? other entries := by
  induction entries with
  | nil => simp [child?]
  | cons head rest ih => grind [child?]

theorem child?_setEntry (name other : Name) (node? : Option FileNode) (entries : List (Name × FileNode)) :
    child? other (setEntry name node? entries) =
      if other = name then node? else child? other entries := by
  cases node? with
  | none => exact child?_filter_ne name other entries
  | some node => exact child?_insertEntry name other node entries

/-- What is found where the change was made, in a directory that is there. -/
theorem at?_change_self (parent : Location) (name : Name) (node? : Option FileNode) (tree : FileNode)
    (entries : List (Name × FileNode)) (h : tree.at? parent = some (.dir entries)) :
    (tree.change (parent ++ [name]) node?).at? (parent ++ [name]) = node? := by
  induction parent generalizing tree with
  | nil =>
    obtain rfl : tree = .dir entries := by simpa [at?] using h
    cases node? <;> simp [change, at?, child?_setEntry]
  | cons first rest ih =>
    cases tree with
    | file content => simp [at?] at h
    | dir children =>
      obtain ⟨child, hchild, hrest⟩ : ∃ child, child? first children = some child ∧
          child.at? rest = some (.dir entries) := by
        simpa [at?, Option.bind_eq_some_iff] using h
      cases rest with
      | nil => simpa [change, at?, hchild, child?_insertEntry] using ih child hrest
      | cons next more => simpa [change, at?, hchild, child?_insertEntry] using ih child hrest

/-- Nothing is different at a location that does not lie at or under the changed one and that is not
on the way to it. -/
theorem at?_change_of_not_prefix (target other : Location) (node? : Option FileNode) (tree : FileNode)
    (under : ¬ target <+: other) (above : ¬ other <+: target) :
    (tree.change target node?).at? other = tree.at? other := by
  induction target generalizing tree other with
  | nil => exact absurd (List.nil_prefix) under
  | cons first rest ih =>
    cases tree with
    | file content => cases rest <;> rfl
    | dir children =>
      cases other with
      | nil => exact absurd (List.nil_prefix) above
      | cons head tail =>
        by_cases hhead : head = first
        · subst hhead
          have hunder : ¬ rest <+: tail := fun h ↦ under (List.cons_prefix_cons.2 ⟨rfl, h⟩)
          have habove : ¬ tail <+: rest := fun h ↦ above (List.cons_prefix_cons.2 ⟨rfl, h⟩)
          cases rest with
          | nil => exact absurd (List.nil_prefix) hunder
          | cons next more =>
            cases hchild : child? head children with
            | none => simp [change, at?, hchild]
            | some child =>
              simpa [change, at?, hchild, child?_insertEntry] using ih tail child hunder habove
        · cases rest with
          | nil => simp [change, at?, child?_setEntry, hhead]
          | cons next more =>
            cases hchild : child? first children with
            | none => simp [change, at?, hchild]
            | some child => simp [change, at?, hchild, child?_insertEntry, hhead]

end FileNode

/-- A root directory and the location that relative paths start from. -/
structure FileTree where
  root : FileNode := .dir []
  here : Location := []
  deriving Inhabited

namespace FileTree

def at? (tree : FileTree) (location : Location) : Option FileNode := tree.root.at? location

def change (tree : FileTree) (location : Location) (node? : Option FileNode) : FileTree :=
  { tree with root := tree.root.change location node? }

/-! ## Listing -/

/-- One line of a listing, with the path below the listed directory. -/
inductive Listed where
  | dir (path : Path)
  | file (path : Path) (content : ByteArray)

mutual

def listNode (chars : List Char) : FileNode → List Listed
  | .file content => [.file ⟨chars⟩ content]
  | .dir entries => .dir ⟨chars⟩ :: listEntries (chars ++ ['/']) entries

/-- Everything in a list of entries whose names follow the given text. -/
def listEntries (chars : List Char) : List (Name × FileNode) → List Listed
  | [] => []
  | (name, node) :: rest => listNode (chars ++ name) node ++ listEntries chars rest

end

/-- Everything below a directory, each directory followed by what is in it. -/
def listing (tree : FileTree) (location : Location) : List Listed :=
  match tree.at? location with
  | some (.dir entries) => listEntries [] entries
  | _ => []

end FileTree

end FleetAgent
