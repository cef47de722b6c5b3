import FleetAgent.Yaml.Scalar

/-!
# Directives, tags and anchors

What may be said about a document or a node besides its content: the version of the notation, short
handles for tags, the tag of a node, and the name under which it can be used again.
-/

namespace FleetAgent.Yaml

/-- A character of tags that is neither a word character nor an escape. -/
def isTagSign (c : Char) : Bool := ";/?:@&=+$.!~*'()".toList.contains c

/-- How many bytes the character takes whose first byte this is. -/
def leadWidth? (byte : Nat) : Option Nat :=
  if byte < 0x80 then some 1
  else if 0xC0 ≤ byte ∧ byte < 0xE0 then some 2
  else if 0xE0 ≤ byte ∧ byte < 0xF0 then some 3
  else if 0xF0 ≤ byte ∧ byte < 0xF8 then some 4
  else none

/-- The characters of a tag. In a tag written out in full, `wide`, the signs of collections may stand
too. A byte that is given by its number reads as the character of that number; `owed` counts the
further bytes that have to be given in this way. -/
def tagText (wide : Bool) : Nat → List Char → List Glyph → Option (List Char × List Glyph)
  | 0, read, [] => some (read.reverse, [])
  | _ + 1, _, [] => none
  | owed, read, glyph :: rest =>
    if glyph.char == '%' then
      match rest with
      | high :: low :: more =>
        match hexDigit? high.char, hexDigit? low.char with
        | some h, some l =>
          let byte := h * 16 + l
          match owed with
          | 0 =>
            match leadWidth? byte with
            | some width => tagText wide (width - 1) (Char.ofNat byte :: read) more
            | none => none
          | owed + 1 =>
            if 0x80 ≤ byte ∧ byte < 0xC0 then tagText wide owed (Char.ofNat byte :: read) more else none
        | _, _ => none
      | _ => none
    else if owed ≠ 0 then none
    else
      let c := glyph.char
      if isWord c || isTagSign c || (wide && (c == ',' || c == '[' || c == ']')) then
        tagText wide 0 (c :: read) rest
      else some (read.reverse, glyph :: rest)

/-- The characters of a tag behind others that are known to belong to it; some character there has to
be. -/
def tagSuffix (wide : Bool) (known : List Char) (glyphs : List Glyph) :
    Option (List Char × List Glyph) := do
  let (text, rest) ← tagText wide 0 [] glyphs
  if known.isEmpty && text.isEmpty then none else return (known.drop 1 ++ text, rest)

/-- A handle: word characters between two exclamation marks, of which the second may be missing. -/
def tagHandle (glyphs : List Glyph) : Option (List Char × List Glyph) :=
  match glyphs with
  | first :: rest =>
    if first.char != '!' then none
    else
      let (word, rest) := span isWord rest
      match rest with
      | last :: more =>
        if last.char == '!' then some ('!' :: word ++ ['!'], more) else some ('!' :: word, rest)
      | [] => some ('!' :: word, rest)
  | [] => none

/-- A tag, as a handle and what follows it. A tag written out in full has no handle. -/
def tagWord (inFlow : Bool) (glyphs : List Glyph) : Option (Word × List Glyph) := do
  let (word, rest) ←
    if charAt glyphs 1 == '<' then do
      let (text, rest) ← tagSuffix true [] (glyphs.drop 2)
      if charOf rest == '>' then pure (Word.tag [] text, rest.drop 1) else none
    else do
      let (handle, rest) ← tagHandle glyphs
      if handle.length > 1 && handle.getLast? == some '!' then
        let (text, rest) ← tagSuffix false [] rest
        pure (Word.tag handle text, rest)
      else
        let (text, rest) ← tagSuffix false handle rest
        pure (if text.isEmpty then Word.tag [] ['!'] else Word.tag ['!'] text, rest)
  let next := charOf rest
  if isGap next || (inFlow && next == ',') then return (word, rest) else none

def anchorName (glyphs : List Glyph) : Option (List Char × List Glyph) :=
  let (name, rest) := span isWord (glyphs.drop 1)
  let next := charOf rest
  if !name.isEmpty && (isGap next || "?:,]\x7d%@\x60".toList.contains next) then some (name, rest) else none

/-- A number of at most nine digits. -/
def shortNumber (glyphs : List Glyph) : Option (Nat × List Glyph) :=
  let (digits, rest) := span Char.isDigit glyphs
  if digits.isEmpty || 9 < digits.length then none
  else some (digits.foldl (fun n c ↦ n * 10 + (c.toNat - 48)) 0, rest)

def directiveBody (name : List Char) (glyphs : List Glyph) : Option (Word × List Glyph) := do
  let rest := skip isBlank glyphs
  if name = "YAML".toList then
    let (major, rest) ← shortNumber rest
    if charOf rest != '.' then none
    let (minor, rest) ← shortNumber (rest.drop 1)
    return (.version major minor, rest)
  else if name = "TAG".toList then
    let (handle, rest) ← tagHandle rest
    if handle.getLast? != some '!' || !isBlank (charOf rest) then none
    let (text, rest) ← tagSuffix true [] (skip isBlank rest)
    if !isGap (charOf rest) then none
    return (.tagHandle handle text, rest)
  else none

def directive (glyphs : List Glyph) : Option (Word × List Glyph) := do
  let (name, rest) := span isWord (glyphs.drop 1)
  if name.isEmpty || !isGap (charOf rest) then none
  let (word, rest) ← directiveBody name rest
  let rest := skip isBlank rest
  let rest := if charOf rest == '#' then skipLine rest else rest
  if isBreak (charOf rest) then return (word, rest.drop 1)
  else if charOf rest == zero then return (word, rest)
  else none

end FleetAgent.Yaml
