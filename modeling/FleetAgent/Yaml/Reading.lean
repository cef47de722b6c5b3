import FleetAgent.Yaml.Properties

/-!
# From glyphs to tokens

Tokens are read one after the other. Whether a word was the key of a mapping shows only when the colon
behind it is reached; so the places where a key may begin are kept open, and the key's sign is put in
front of the word afterwards. Indentation opens and closes the collections in blocks.

Where the text breaks the rules reading stops, and of the tokens read so far only those count whose
part in the whole was settled by then: the ones in front of the first place where a key may begin.
-/

namespace FleetAgent.Yaml

/-- A place where a key may begin. -/
structure KeyPlace where
  /-- A key has to begin here, since its collection goes on in this column. -/
  required : Bool
  /-- How many tokens stand in front of it. -/
  number : Nat
  mark : Mark
  deriving Inhabited

structure Reading where
  rest : List Glyph
  tokens : Array Token := #[]
  /-- A key may begin at the next token. -/
  keyAllowed : Bool := true
  /-- The open place of the innermost brackets first; the last one is that of the blocks. -/
  places : List (Option KeyPlace) := [none]
  /-- The column of the innermost block collection. -/
  indent : Int := -1
  indents : List Int := []
  ended : Bool := false

namespace Reading

def inFlow (reading : Reading) : Bool := 1 < reading.places.length

def mark (reading : Reading) : Mark := markOf reading.rest

def push (reading : Reading) (word : Word) (start stop : Mark) : Reading :=
  { reading with tokens := reading.tokens.push ⟨word, start, stop⟩ }

/-- The next so many glyphs as one word. -/
def take (reading : Reading) (word : Word) (count : Nat) : Reading :=
  let rest := reading.rest.drop count
  { reading.push word reading.mark (markOf rest) with rest }

/-! ## Places of keys -/

/-- The place can no longer begin a key: it is on an earlier line or too far away. -/
def isStale (mark : Mark) (place : KeyPlace) : Bool :=
  place.mark.line < mark.line || place.mark.index + 1024 < mark.index

def closeStale (reading : Reading) : Option Reading :=
  let stale (place? : Option KeyPlace) := place?.any (isStale reading.mark)
  if reading.places.any fun place? ↦ stale place? && place?.any KeyPlace.required then none
  else some { reading with
    places := reading.places.map fun place? ↦ if stale place? then none else place? }

def dropPlace (reading : Reading) : Option Reading :=
  match reading.places with
  | place? :: rest =>
    if place?.any KeyPlace.required then none else some { reading with places := none :: rest }
  | [] => some reading

/-- Opens a place for a key at the next token, where one is allowed. -/
def openPlace (reading : Reading) : Option Reading :=
  if reading.keyAllowed then do
    let required := !reading.inFlow && reading.indent == reading.mark.column
    let reading ← reading.dropPlace
    let place : KeyPlace := ⟨required, reading.tokens.size, reading.mark⟩
    return { reading with places := some place :: reading.places.tail }
  else some reading

/-! ## Indentation -/

/-- Opens a block collection at a column unless one is open there. The sign goes behind the first
`number` tokens. -/
def indentTo (reading : Reading) (column number : Nat) (word : Word) (mark : Mark) : Reading :=
  if !reading.inFlow && reading.indent < column then
    { reading with
      indents := reading.indent :: reading.indents, indent := column
      tokens := reading.tokens.insertIdxIfInBounds number ⟨word, mark, mark⟩ }
  else reading

/-- Closes the given block collections as far as they are indented further than the column. -/
def dedentThrough (column : Int) : List Int → Reading → Reading
  | [], reading => reading
  | outer :: rest, reading =>
    if column < reading.indent then
      dedentThrough column rest
        { reading.push .blockEnd reading.mark reading.mark with indent := outer, indents := rest }
    else reading

/-- Closes the block collections that are indented further than the column. -/
def dedentTo (reading : Reading) (column : Int) : Reading :=
  if reading.inFlow then reading else dedentThrough column reading.indents reading

/-! ## The kinds of tokens -/

/-- What is skipped in front of a token: blanks, comments and breaks. -/
def skipIdle (inFlow : Bool) : Bool → Bool → List Glyph → Bool × List Glyph
  | _, keyAllowed, [] => (keyAllowed, [])
  | inComment, keyAllowed, glyph :: rest =>
    let c := glyph.char
    if isBreak c then skipIdle inFlow false (keyAllowed || !inFlow) rest
    else if c == zero then (keyAllowed, glyph :: rest)
    else if inComment || c == '#' then skipIdle inFlow true keyAllowed rest
    else if c == ' ' || (c == '\t' && (inFlow || !keyAllowed)) then skipIdle inFlow false keyAllowed rest
    else if c == '\ufeff' && glyph.mark.column == 0 then skipIdle inFlow false keyAllowed rest
    else (keyAllowed, glyph :: rest)

def readEnd (reading : Reading) : Option Reading := do
  let mark := reading.mark
  let mark := if mark.column = 0 then mark else { mark with column := 0, line := mark.line + 1 }
  let reading := { reading with rest := [⟨zero, mark⟩] }
  let reading ← (reading.dedentTo (-1)).dropPlace
  return { reading.push .streamEnd mark mark with keyAllowed := false, ended := true }

def readDirective (reading : Reading) : Option Reading := do
  let reading ← (reading.dedentTo (-1)).dropPlace
  let (word, rest) ← directive reading.rest
  return { reading.push word reading.mark (markOf rest) with rest, keyAllowed := false }

def readDocumentMark (reading : Reading) (word : Word) : Option Reading := do
  let reading ← (reading.dedentTo (-1)).dropPlace
  return { reading.take word 3 with keyAllowed := false }

def readOpening (reading : Reading) (word : Word) : Option Reading := do
  let reading ← reading.openPlace
  return { reading.take word 1 with keyAllowed := true, places := none :: reading.places }

def readClosing (reading : Reading) (word : Word) : Option Reading := do
  let reading ← reading.dropPlace
  let places := if reading.inFlow then reading.places.tail else reading.places
  return { reading.take word 1 with keyAllowed := false, places }

def readComma (reading : Reading) : Option Reading := do
  let reading ← reading.dropPlace
  return { reading.take .comma 1 with keyAllowed := true }

/-- Opens a block collection for the sign that comes next, where that is allowed. -/
def indentHere (reading : Reading) (word : Word) : Option Reading :=
  if reading.inFlow then some reading
  else if !reading.keyAllowed then none
  else some (reading.indentTo reading.mark.column reading.tokens.size word reading.mark)

def readEntry (reading : Reading) : Option Reading := do
  let reading ← (← reading.indentHere .blockSequence).dropPlace
  return { reading.take .entry 1 with keyAllowed := true }

def readKey (reading : Reading) : Option Reading := do
  let reading ← (← reading.indentHere .blockMapping).dropPlace
  return { reading.take .key 1 with keyAllowed := !reading.inFlow }

def readValue (reading : Reading) : Option Reading := do
  match reading.places with
  | some place :: outer =>
    let keyed := { reading with
      tokens := reading.tokens.insertIdxIfInBounds place.number ⟨.key, place.mark, place.mark⟩ }
    let reading := keyed.indentTo place.mark.column place.number .blockMapping place.mark
    return { reading.take .value 1 with keyAllowed := false, places := none :: outer }
  | _ =>
    let reading ← reading.indentHere .blockMapping
    return { reading.take .value 1 with keyAllowed := !reading.inFlow }

/-- A word that may be a key, or begin one. -/
def readWord (reading : Reading) (read : List Glyph → Option (Word × List Glyph)) : Option Reading := do
  let reading ← reading.openPlace
  let (word, rest) ← read reading.rest
  return { reading.push word reading.mark (markOf rest) with rest, keyAllowed := false }

def readPlain (reading : Reading) : Option Reading := do
  let reading ← reading.openPlace
  let scalar ← plainBody reading.inFlow (reading.indent + 1) none [] reading.mark reading.rest
  return { reading.push (.scalar .plain scalar.text) reading.mark scalar.stop with
    rest := scalar.rest, keyAllowed := scalar.newLine }

def readBlock (reading : Reading) (literal : Bool) : Option Reading := do
  let reading ← reading.dropPlace
  let (text, rest) ← blockScalar literal reading.indent (reading.rest.drop 1)
  let style := if literal then Style.literal else Style.folded
  return { reading.push (.scalar style text) reading.mark (markOf rest) with rest, keyAllowed := true }

def isSign (c : Char) : Bool :=
  ['-', '?', ':', ',', '[', ']', '\x7b', '\x7d', '#', '&', '*', '!', '|', '>', '\'', '"', '%', '@',
   '\x60'].contains c

/-- A plain scalar begins here. -/
def beginsPlain (inFlow : Bool) (glyphs : List Glyph) : Bool :=
  let c := charOf glyphs
  let next := charAt glyphs 1
  (!isGap c && !isSign c) || (c == '-' && !isBlank next) || (!inFlow && (c == '?' || c == ':') && !isGap next)

def readToken (reading : Reading) : Option Reading :=
  let glyphs := reading.rest
  let c := charOf glyphs
  let signs := reading.inFlow || isGap (charAt glyphs 1)
  let first := reading.mark.column == 0
  if c == zero then reading.readEnd
  else if first && c == '%' then reading.readDirective
  else if first && isTriple '-' glyphs then reading.readDocumentMark .documentStart
  else if first && isTriple '.' glyphs then reading.readDocumentMark .documentEnd
  else if c == '[' then reading.readOpening .openBracket
  else if c == '{' then reading.readOpening .openBrace
  else if c == ']' then reading.readClosing .closeBracket
  else if c == '}' then reading.readClosing .closeBrace
  else if c == ',' then reading.readComma
  else if c == '-' && isGap (charAt glyphs 1) then reading.readEntry
  else if c == '?' && signs then reading.readKey
  else if c == ':' && signs then reading.readValue
  else if c == '*' then reading.readWord fun gs ↦ (anchorName gs).map fun (name, rest) ↦ (.reference name, rest)
  else if c == '&' then reading.readWord fun gs ↦ (anchorName gs).map fun (name, rest) ↦ (.anchor name, rest)
  else if c == '!' then reading.readWord (tagWord reading.inFlow)
  else if c == '|' && !reading.inFlow then reading.readBlock true
  else if c == '>' && !reading.inFlow then reading.readBlock false
  else if c == '\'' then reading.readWord fun gs ↦
    (quotedBody true .text [] (gs.drop 1)).map fun (text, rest) ↦ (.scalar .single text, rest)
  else if c == '"' then reading.readWord fun gs ↦
    (quotedBody false .text [] (gs.drop 1)).map fun (text, rest) ↦ (.scalar .double text, rest)
  else if beginsPlain reading.inFlow glyphs then reading.readPlain
  else none

def next (reading : Reading) : Option Reading := do
  let (keyAllowed, rest) := skipIdle reading.inFlow false reading.keyAllowed reading.rest
  let reading ← { reading with keyAllowed, rest : Reading }.closeStale
  let reading ← (reading.dedentTo reading.mark.column).readToken
  reading.closeStale

/-- Reads on while there are tokens. The result tells whether the end was reached. -/
def run : Nat → Reading → Reading × Bool
  | 0, reading => (reading, reading.ended)
  | steps + 1, reading =>
    if reading.ended then (reading, true)
    else match reading.next with
      | some after => run steps after
      | none => (reading, false)

/-- The tokens whose part in the whole is settled. -/
def settled (reading : Reading) : List Token :=
  let open' := reading.places.filterMap fun place? ↦ place?.map KeyPlace.number
  match open'.min? with
  | some number => (reading.tokens.extract 0 number).toList
  | none => reading.tokens.toList

end Reading

/-- The tokens of a text, as far as it keeps to the rules. When it does to its end the last token says
so. -/
def tokens (glyphs : List Glyph) : List Token :=
  let first : Reading := { rest := glyphs, tokens := #[⟨.streamStart, markOf glyphs, markOf glyphs⟩] }
  let (reading, whole) := Reading.run (glyphs.length + 1) first
  if whole then reading.tokens.toList else reading.settled

end FleetAgent.Yaml
