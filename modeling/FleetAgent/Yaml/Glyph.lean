/-!
# Characters in their places

A text is read as its characters together with the place of each. A line break of two characters is
one glyph, and the breaks of the older systems read as a line feed. The last glyph is a zero, which no
text can hold, at the place where the text ends.
-/

namespace FleetAgent.Yaml

/-- A place in a text: characters before it, lines before it, and characters before it on its line. -/
structure Mark where
  index : Nat := 0
  line : Nat := 0
  column : Nat := 0
  deriving DecidableEq, Repr, Inhabited

/-- The place behind an ordinary character. -/
def Mark.right (mark : Mark) : Mark := { mark with index := mark.index + 1, column := mark.column + 1 }

/-- The beginning of the next line, behind a break of so many characters. -/
def Mark.below (mark : Mark) (size : Nat) : Mark := ⟨mark.index + size, mark.line + 1, 0⟩

structure Glyph where
  char : Char
  mark : Mark
  deriving DecidableEq, Repr, Inhabited

def zero : Char := '\x00'

/-- The breaks that read as themselves. -/
def isSeparator (c : Char) : Bool := c == '\u2028' || c == '\u2029'

def isBreak (c : Char) : Bool := c == '\n' || isSeparator c

def isBlank (c : Char) : Bool := c == ' ' || c == '\t'

/-- A blank, a break, or the end of the text. -/
def isGap (c : Char) : Bool := isBlank c || isBreak c || c == zero

def isWord (c : Char) : Bool := c.isAlphanum || c == '-' || c == '_'

/-- The characters with their places, the end of the text among them. -/
def glyphsFrom (mark : Mark) : List Char → List Glyph
  | [] => [⟨zero, mark⟩]
  | '\r' :: '\n' :: rest => ⟨'\n', mark⟩ :: glyphsFrom (mark.below 2) rest
  | c :: rest =>
    if c == '\n' || c == '\r' || c == '\u0085' then ⟨'\n', mark⟩ :: glyphsFrom (mark.below 1) rest
    else if isSeparator c then ⟨c, mark⟩ :: glyphsFrom (mark.below 1) rest
    else ⟨c, mark⟩ :: glyphsFrom mark.right rest

def isAllowed (c : Char) : Bool :=
  let n := c.toNat
  n == 0x9 || n == 0xA || n == 0xD || (0x20 ≤ n && n ≤ 0x7E) || n == 0x85 || (0xA0 ≤ n && n ≤ 0xFFFD) ||
    0x10000 ≤ n

/-- The glyphs of a text, unless a character in it is not allowed. -/
def glyphs? (text : String) : Option (List Glyph) :=
  if text.toList.all isAllowed then some (glyphsFrom {} text.toList) else none

/-! ## Looking at the glyphs ahead -/

def charAt (glyphs : List Glyph) (n : Nat) : Char := (glyphs[n]?.map Glyph.char).getD zero

def charOf (glyphs : List Glyph) : Char := charAt glyphs 0

def markOf (glyphs : List Glyph) : Mark := (glyphs.head?.map Glyph.mark).getD {}

/-- Three times the character, followed by a gap. -/
def isTriple (c : Char) (glyphs : List Glyph) : Bool :=
  charAt glyphs 0 == c && charAt glyphs 1 == c && charAt glyphs 2 == c && isGap (charAt glyphs 3)

/-- A line begins here that marks where a document begins or ends. -/
def isDocumentMark (glyphs : List Glyph) : Bool :=
  (markOf glyphs).column == 0 && (isTriple '-' glyphs || isTriple '.' glyphs)

def skip (p : Char → Bool) (glyphs : List Glyph) : List Glyph := glyphs.dropWhile fun g ↦ p g.char

/-- The leading characters of that kind, and what is left. -/
def span (p : Char → Bool) (glyphs : List Glyph) : List Char × List Glyph :=
  ((glyphs.takeWhile fun g ↦ p g.char).map Glyph.char, skip p glyphs)

/-- What is left of the line, up to its break. -/
def skipLine (glyphs : List Glyph) : List Glyph := skip (fun c ↦ !isBreak c && c != zero) glyphs

end FleetAgent.Yaml
