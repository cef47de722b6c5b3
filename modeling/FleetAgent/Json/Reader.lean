import FleetAgent.Json.Fault

/-!
# Readers

A reader takes something from the front of a text. What it has taken stays taken even when it fails,
because a fault without a place of its own gets the place that has been reached when the value around
it ends.
-/

namespace FleetAgent.Json

/-- Takes a value from the front of a text. -/
abbrev Reader (α : Type) := ExceptT Fault (StateM Bytes) α

namespace Reader

def failHere (reason : Reason) : Reader α := fun text ↦ (.error ⟨reason, some text⟩, text)

/-- Fails behind the byte that comes next. -/
def failNext (reason : Reason) : Reader α := fun text ↦ (.error ⟨reason, some (text.drop 1)⟩, text)

/-- Fails at a place that is not known yet. -/
def reject (reason : Reason) : Reader α := fun text ↦ (.error ⟨reason, none⟩, text)

def advance : Reader Unit := fun text ↦ (.ok (), text.drop 1)

def next? : Reader (Option UInt8) := fun text ↦ (.ok text.head?, text)

def isBlank (byte : UInt8) : Bool := byte == 0x20 || byte == 0x0A || byte == 0x09 || byte == 0x0D

/-- Takes the blanks, and gives the byte that comes next, if any. -/
def solid? : Reader (Option UInt8) := fun text ↦
  let text := text.dropWhile isBlank
  (.ok text.head?, text)

/-- A reader given by a function that says itself what is left. -/
def ofFunction (read : Bytes → Except Fault (α × Bytes)) : Reader α := fun text ↦
  match read text with
  | .ok (value, rest) => (.ok value, rest)
  | .error fault => (.error fault, text)

/-- The place reached goes to a fault that has none. -/
def placed (read : Reader α) : Reader α := fun text ↦
  match read text with
  | (.error ⟨reason, none⟩, rest) => (.error ⟨reason, some rest⟩, rest)
  | result => result

/-- Reads a value and then its end. The end is looked for behind a faulty value, too, but only the
first fault counts. -/
def closedBy (close : Reader Unit) (read : Reader α) : Reader α := fun text ↦
  match read text with
  | (.ok value, rest) =>
    match close rest with
    | (.ok _, rest) => (.ok value, rest)
    | (.error fault, rest) => (.error fault, rest)
  | (.error fault, rest) => (.error fault, (close rest).2)

def word : Bytes → Reader Unit
  | [] => pure ()
  | letter :: letters => do
    match ← next? with
    | none => failHere .endInValue
    | some byte =>
      advance
      if byte = letter then word letters else failHere .expectedWord

/-- The value that makes up a whole text, with nothing but blanks around it. -/
def parse (read : Reader α) (text : Bytes) : Except Malformed α :=
  let whole : Reader α := do
    let value ← read
    match ← solid? with
    | none => return value
    | some _ => failNext .trailing
  match (whole text).1 with
  | .ok value => .ok value
  | .error fault => .error (fault.within text)

end Reader

end FleetAgent.Json
