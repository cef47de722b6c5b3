import FleetAgent.Yaml.Token
import FleetAgent.Text.Hex

/-!
# Scalars

The five ways to write a scalar. In quoted and in plain scalars a break between lines reads as a space
and further breaks as themselves; in block scalars the lines are kept, or folded when they are neither
empty nor indented further. Reading a scalar gives nothing where the text breaks the rules.
-/

namespace FleetAgent.Yaml

/-! ## Gaps between lines -/

structure Gap where
  blanks : List Char := []
  /-- There has been a break. -/
  broken : Bool := false
  first : List Char := []
  later : List Char := []

namespace Gap

/-- The gap with one more blank or break; blanks behind a break do not count. -/
def add (gap : Gap) (c : Char) : Gap :=
  if isBreak c then
    if gap.broken then { gap with later := gap.later ++ [c] }
    else { gap with blanks := [], first := [c], broken := true }
  else if gap.broken then gap
  else { gap with blanks := gap.blanks ++ [c] }

/-- What the gap reads as when more text follows. -/
def text (gap : Gap) : List Char :=
  if !gap.broken then gap.blanks
  else if gap.first = ['\n'] then if gap.later = [] then [' '] else gap.later
  else gap.first ++ gap.later

end Gap

/-! ## Quoted scalars -/

inductive Inside where
  | text
  | gap (gap : Gap)
  /-- So many more hexadecimal digits of a code point, and the value of those before. -/
  | code (left value : Nat)

/-- What reads as the gap before the next character of the text. -/
def Inside.pending (inside : Inside) : List Char :=
  match inside with
  | .gap seen => seen.text
  | _ => []

def hexDigit? (c : Char) : Option Nat :=
  if c.toNat < 128 then (Text.Hex.digit? c.toNat.toUInt8).map UInt8.toNat else none

def escape? : Char → Option Char
  | '0' => some '\x00'
  | 'a' => some '\x07'
  | 'b' => some '\x08'
  | 't' | '\t' => some '\t'
  | 'n' => some '\n'
  | 'v' => some '\x0b'
  | 'f' => some '\x0c'
  | 'r' => some '\r'
  | 'e' => some '\x1b'
  | ' ' => some ' '
  | '"' => some '"'
  | '/' => some '/'
  | '\\' => some '\\'
  | 'N' => some '\u0085'
  | '_' => some '\u00a0'
  | 'L' => some '\u2028'
  | 'P' => some '\u2029'
  | _ => none

/-- The number of digits behind an escape for a code point. -/
def codeLength? : Char → Option Nat
  | 'x' => some 2
  | 'u' => some 4
  | 'U' => some 8
  | _ => none

/-- The text up to the closing quote and the glyphs behind it; `read` holds, reversed, what has been
read already. -/
def quotedBody (single : Bool) : Inside → List Char → List Glyph → Option (List Char × List Glyph)
  | _, _, [] => none
  | .code left value, read, glyph :: rest =>
    match hexDigit? glyph.char with
    | none => none
    | some digit =>
      let code := value * 16 + digit
      if left ≤ 1 then
        if code.isValidChar then quotedBody single .text (Char.ofNat code :: read) rest else none
      else quotedBody single (.code (left - 1) code) read rest
  | inside, read, glyph :: rest =>
    let c := glyph.char
    if isBlank c || isBreak c then
      let gap := match inside with
        | .gap seen => seen
        | _ => {}
      quotedBody single (.gap (gap.add c)) read rest
    else if isDocumentMark (glyph :: rest) || c == zero then none
    else
      let read := inside.pending.reverse ++ read
      if single then
        if c != '\'' then quotedBody single .text (c :: read) rest
        else match rest with
          | next :: more =>
            if next.char == '\'' then quotedBody single .text ('\'' :: read) more
            else some (read.reverse, rest)
          | [] => some (read.reverse, rest)
      else if c == '"' then some (read.reverse, rest)
      else if c != '\\' then quotedBody single .text (c :: read) rest
      else match rest with
        | next :: more =>
          if isBreak next.char then quotedBody single (.gap { broken := true }) read more
          else match codeLength? next.char with
            | some digits => quotedBody single (.code digits 0) read more
            | none =>
              match escape? next.char with
              | some meant => quotedBody single .text (meant :: read) more
              | none => none
        | [] => none

/-! ## Plain scalars -/

structure PlainScalar where
  text : List Char
  stop : Mark
  newLine : Bool
  rest : List Glyph

/-- One of the signs of collections within brackets. -/
def isFlowSign (c : Char) : Bool := c == ',' || c == '[' || c == ']' || c == '{' || c == '}'

/-- Reads a plain scalar; `indent` is the least column of its further lines. -/
def plainBody (inFlow : Bool) (indent : Int) :
    Option Gap → List Char → Mark → List Glyph → Option PlainScalar
  | _, _, _, [] => none
  | gap?, read, stop, glyph :: rest =>
    let c := glyph.char
    let column : Int := glyph.mark.column
    let ended : PlainScalar :=
      ⟨read.reverse, stop, (gap?.map Gap.broken).getD false, glyph :: rest⟩
    let next := charOf rest
    if isBlank c || isBreak c then
      let gap := gap?.getD {}
      if gap.broken && c == '\t' && column < indent then none
      else plainBody inFlow indent (some (gap.add c)) read stop rest
    else if gap?.isSome && ((!inFlow && column < indent) || isDocumentMark (glyph :: rest) || c == '#') then
      some ended
    else if c == zero then some ended
    else if inFlow && c == ':' && (isFlowSign next || next == '?') then none
    else if (c == ':' && isGap next) || (inFlow && isFlowSign c) then some ended
    else
      let pending := (gap?.map Gap.text).getD []
      plainBody inFlow indent none (c :: pending.reverse ++ read) (markOf rest) rest

/-! ## Block scalars -/

/-- Which of the breaks at the end of a block scalar belong to it. -/
inductive Chomp where
  | strip
  | clip
  | keep
  deriving DecidableEq

/-- A block scalar in the course of being read. -/
structure BlockScalar where
  /-- The column of its lines, or zero while that is not known. -/
  indent : Nat
  /-- The furthest column seen while looking for the first line. -/
  furthest : Nat := 0
  inLine : Bool := false
  /-- The line before this one began with a blank. -/
  blankLed : Bool := false
  first : List Char := []
  later : List Char := []
  /-- What has been read, reversed. -/
  read : List Char := []

namespace BlockScalar

/-- Begins a line with its first character. -/
def beginLine (block : BlockScalar) (literal : Bool) (c : Char) : BlockScalar :=
  let folds := !literal && block.first == ['\n'] && !block.blankLed && !isBlank c
  let joint := if folds then if block.later = [] then [' '] else [] else block.first
  { block with
    inLine := true, blankLed := isBlank c, first := [], later := []
    read := c :: (joint ++ block.later).reverse ++ block.read }

/-- The text once its end has been reached. -/
def text (block : BlockScalar) (chomp : Chomp) : List Char :=
  let ending := match chomp with
    | .strip => []
    | .clip => block.first
    | .keep => block.first ++ block.later
  block.read.reverse ++ ending

end BlockScalar

/-- Reads the lines of a block scalar below a collection at column `parent`. -/
def blockBody (literal : Bool) (parent : Int) :
    BlockScalar → List Glyph → Option (BlockScalar × List Glyph)
  | _, [] => none
  | block, glyph :: rest =>
    let c := glyph.char
    let column := glyph.mark.column
    if block.inLine then
      if c == zero then some ({ block with first := [] }, glyph :: rest)
      else if isBreak c then
        blockBody literal parent { block with inLine := false, first := [c], furthest := 0 } rest
      else blockBody literal parent { block with read := c :: block.read } rest
    else
      let inMargin := block.indent == 0 || column < block.indent
      let furthest := max block.furthest column
      if inMargin && c == ' ' then blockBody literal parent block rest
      else if inMargin && c == '\t' then none
      else if isBreak c then
        blockBody literal parent { block with later := block.later ++ [c], furthest } rest
      else
        let indent := if block.indent = 0 then max (max furthest (parent + 1).toNat) 1 else block.indent
        let block := { block with indent, furthest }
        if column == indent && c != zero then blockBody literal parent (block.beginLine literal c) rest
        else some (block, glyph :: rest)

/-- The indicators behind the sign of a block scalar: the indentation, if given, and the chomping. -/
def blockHeader (glyphs : List Glyph) : Option (Nat × Chomp × List Glyph) :=
  let chompOf? : Char → Option Chomp
    | '+' => some .keep
    | '-' => some .strip
    | _ => none
  let digitOf? (c : Char) : Option Nat := if c.isDigit then some (c.toNat - 48) else none
  let first := charAt glyphs 0
  let second := charAt glyphs 1
  let header := match chompOf? first, digitOf? first with
    | some chomp, _ =>
      match digitOf? second with
      | some digit => (some digit, chomp, glyphs.drop 2)
      | none => (none, chomp, glyphs.drop 1)
    | none, some digit =>
      match chompOf? second with
      | some chomp => (some digit, chomp, glyphs.drop 2)
      | none => (some digit, Chomp.clip, glyphs.drop 1)
    | none, none => (none, Chomp.clip, glyphs)
  match header with
  | (some 0, _, _) => none
  | (digit?, chomp, rest) =>
    let rest := skip isBlank rest
    let rest := if charOf rest == '#' then skipLine rest else rest
    if isBreak (charOf rest) then some (digit?.getD 0, chomp, rest.drop 1)
    else if charOf rest == zero then some (digit?.getD 0, chomp, rest)
    else none

/-- The text of a block scalar whose sign has been read. -/
def blockScalar (literal : Bool) (parent : Int) (glyphs : List Glyph) :
    Option (List Char × List Glyph) := do
  let (digit, chomp, rest) ← blockHeader glyphs
  let indent := if digit = 0 then 0 else if 0 ≤ parent then parent.toNat + digit else digit
  let (block, rest) ← blockBody literal parent { indent } rest
  return (block.text chomp, rest)

end FleetAgent.Yaml
