import FleetAgent.Text.Split

/-!
# Paths

A path is the text that names a file, kept as it was written: joining never tidies it up. Its
components are what the text says once repeated separators and inner dots are left out, and only the
components decide where the path leads.
-/

namespace FleetAgent

abbrev Name := List Char

/-- The text of a path, separator `'/'`. -/
structure Path where
  chars : List Char
  deriving DecidableEq, Repr, Inhabited

namespace Path

/-- One step of the way that a path describes. -/
inductive Component where
  | root
  | here
  | up
  | name (name : Name)
  deriving DecidableEq, Repr

def ofString (text : String) : Path := ⟨text.toList⟩

def toString (path : Path) : String := String.ofList path.chars

instance : ToString Path := ⟨Path.toString⟩

/-- The stretches between separators, empty ones included. -/
def stretches (chars : List Char) : List Name := Text.stretches '/' chars

def isAbsolute (path : Path) : Bool := path.chars.head? == some '/'

/-- The step that a stretch after the first one stands for, if any. -/
def step? (stretch : Name) : Option Component :=
  if stretch = [] ∨ stretch = ['.'] then none
  else if stretch = ['.', '.'] then some .up
  else some (.name stretch)

/-- A leading separator is the root, a leading dot is kept, and every other empty stretch or dot says
nothing. -/
def components (path : Path) : List Component :=
  let steps := (stretches path.chars).filterMap step?
  if path.isAbsolute then .root :: steps
  else if (stretches path.chars).head? = some ['.'] then .here :: steps
  else steps

/-- The second path as seen from the first: an absolute one stands alone, any other follows after a
separator. -/
def join (base path : Path) : Path :=
  if path.isAbsolute then path
  else if base.chars = [] ∨ base.chars.getLast? = some '/' then ⟨base.chars ++ path.chars⟩
  else ⟨base.chars ++ '/' :: path.chars⟩

/-- The path itself when it is absolute, else the path under `base`. -/
def resolve (base path : Path) : Path := if path.isAbsolute then path else base.join path

/-- The names with a separator between each two of them. -/
def ofNames : List Name → Path
  | [] => ⟨[]⟩
  | [name] => ⟨name⟩
  | name :: rest => ⟨name ++ '/' :: (ofNames rest).chars⟩

/-! ## The parent of a path -/

def lead (path : Path) : List Char :=
  match path.chars with
  | '/' :: _ => ['/']
  | ['.'] => ['.']
  | '.' :: '/' :: _ => ['.']
  | _ => []

/-- Drops, from a reversed text, trailing separators and trailing dots that say nothing. -/
def dropIdle : List Char → List Char
  | '/' :: rest => dropIdle rest
  | '.' :: '/' :: rest => dropIdle rest
  | ['.'] => []
  | reversed => reversed

/-- The path without its last step, as a beginning of its text. The root and the empty path have no
parent. -/
def parent? (path : Path) : Option Path :=
  let lead := path.lead
  match dropIdle (path.chars.drop lead.length).reverse with
  | [] => if lead = ['.'] then some ⟨[]⟩ else none
  | reversed =>
    let body := dropIdle ((reversed.dropWhile (· ≠ '/')).drop 1)
    some ⟨lead ++ body.reverse⟩

/-- The directory that holds the path: its parent, or the dot when the parent has no text. -/
def directory (path : Path) : Path :=
  match path.parent? with
  | some parent => if parent.chars = [] then ⟨['.']⟩ else parent
  | none => ⟨['.']⟩

/-! ## Staying below a root -/

/-- Follows one step without ever leaving the place where the walk began: a step up stops there. -/
def descend (names : List Name) : Component → List Name
  | .name name => names ++ [name]
  | .up => names.dropLast
  | .root | .here => names

/-- The names that the path leads through when its beginning is taken for the root. -/
def confined (path : Path) : List Name := path.components.foldl descend []

/-- The path below `root` that `path` asks for: a leading separator is dropped and a step up stops at
the root. -/
def below (root path : Path) : Path := root.join (ofNames path.confined)

end Path

end FleetAgent
