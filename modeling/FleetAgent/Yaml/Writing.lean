import FleetAgent.Text.Quoted
import FleetAgent.Yaml.Meaning

/-!
# Writing scalars

A text is written as plainly as it can be read back: bare if nothing in it could be taken for anything
else, in single quotes if only its line breaks or signs stand in the way, and in double quotes, where
everything can be escaped, otherwise. A text of several lines is written as a block of lines instead
whenever that is possible.
-/

namespace FleetAgent.Yaml

def isPrintable (c : Char) : Bool :=
  let n := c.toNat
  n == 0xA || (0x20 ≤ n && n ≤ 0x7E) || (0xA0 ≤ n && n ≤ 0xFFFD && n != 0xFEFF) || 0x10000 ≤ n

def isSpace (c : Char) : Bool := c == ' '

/-- A character of the first kind stands right before one of the second kind. -/
def hasPair (p q : Char → Bool) : List Char → Bool
  | a :: b :: rest => (p a && q b) || hasPair p q (b :: rest)
  | _ => false

/-- Blanks and breaks are such that quotes of either kind keep them. -/
def keepsBreaks (text : List Char) : Bool := text.all isPrintable && !hasPair isSpace isBreak text

/-! ## What could be taken for something else -/

def leadingSigns : List Char :=
  ['#', ',', '[', ']', '\x7b', '\x7d', '&', '*', '!', '|', '>', '\'', '"', '%', '@', '\x60']

/-- A blank, a break, or the end stands at the front. -/
def isBeforeGap (rest : List Char) : Bool := rest.head?.all fun c ↦ isSpace c || isBreak c

/-- A sign that shapes collections stands at the front. -/
def leadsWithSign : List Char → Bool
  | [] => false
  | c :: rest =>
    leadingSigns.contains c || ((c == '?' || c == ':' || c == '-') && isBeforeGap rest)

/-- A sign of a value, or of a remark, stands behind the first character. -/
def hasInnerSign : List Char → Bool
  | a :: b :: rest =>
    (b == ':' && isBeforeGap rest) || (b == '#' && (isSpace a || isBreak a)) || hasInnerSign (b :: rest)
  | _ => false

/-- The text begins like a line that ends a document. -/
def leadsLikeMark (text : List Char) : Bool := text.take 3 == "---".toList || text.take 3 == "...".toList

/-- The text has at most one line and nothing in it is a sign. -/
def isBare (text : List Char) : Bool :=
  !text.any isBreak && !text.head?.any isSpace && !text.getLast?.any isSpace && !leadsWithSign text &&
    !hasInnerSign text && !leadsLikeMark text

/-- A plain scalar with this text would be a text, and would not look like a number either. -/
def meansItself (text : List Char) : Bool := (Meaning.ofPlain text).isNone && !Meaning.isCode text

def styleOf (text : List Char) : Style :=
  if text.contains '\n' then
    if keepsBreaks text && !text.getLast?.any isSpace then .literal else .double
  else if keepsBreaks text && !hasPair isBreak isSpace text then
    if meansItself text && isBare text then .plain else .single
  else .double

/-! ## The forms -/

/-- The text with a margin in front of every line that has something in it. -/
def withMargin (margin : List Char) : Bool → List Char → List Char
  | _, [] => []
  | fresh, c :: rest =>
    if isBreak c then c :: withMargin margin true rest
    else (if fresh then margin else []) ++ c :: withMargin margin false rest

def endsInBreak (text : List Char) : Bool := text.getLast?.any isBreak

def singleQuoted (margin text : List Char) : List Char :=
  let doubled := text.flatMap fun c ↦ if c = '\'' then ['\'', '\''] else [c]
  '\'' :: withMargin margin false doubled ++ (if endsInBreak text then margin else []) ++ ['\'']

/-- The letter that stands for a character behind a backslash. -/
def escapeLetter? (c : Char) : Option Char :=
  [('\x00', '0'), ('\x07', 'a'), ('\x08', 'b'), ('\t', 't'), ('\n', 'n'), ('\x0b', 'v'), ('\x0c', 'f'),
   ('\r', 'r'), ('\x1b', 'e'), ('"', '"'), ('\\', '\\'), ('\u0085', 'N'), ('\u2028', 'L'),
   ('\u2029', 'P')].lookup c

def codeDigits (width n : Nat) : List Char :=
  let digits := (Text.hexOf n).map Char.toUpper
  List.replicate (width - digits.length) '0' ++ digits

/-- A character in double quotes. -/
def doubleEscaped (c : Char) : List Char :=
  match escapeLetter? c with
  | some letter => ['\\', letter]
  | none =>
    let n := c.toNat
    if isPrintable c then [c]
    else if n ≤ 0xFF then '\\' :: 'x' :: codeDigits 2 n
    else if n ≤ 0xFFFF then '\\' :: 'u' :: codeDigits 4 n
    else '\\' :: 'U' :: codeDigits 8 n

def doubleQuoted (text : List Char) : List Char := '"' :: text.flatMap doubleEscaped ++ ['"']

/-- What a block says about the breaks at its end: that there is none, one, or more than one. -/
def endHint (text : List Char) : List Char :=
  match text.reverse with
  | last :: before =>
    if !isBreak last then ['-'] else if before.head?.all isBreak then ['+'] else []
  | [] => ['-']

/-- The text as a block of lines. The margin has to be told when the first line begins with a blank or
has nothing in it. -/
def literalBlock (margin text : List Char) : List Char :=
  let marginHint := if text.head?.any (fun c ↦ isSpace c || isBreak c) then ['2'] else []
  '|' :: marginHint ++ endHint text ++ '\n' :: withMargin margin true text

def step : List Char := [' ', ' ']

/-- A text up to the end of its last line, under a margin. -/
def textLines (margin text : List Char) : List Char :=
  match styleOf text with
  | .plain | .folded => text ++ ['\n']
  | .single => singleQuoted margin text ++ ['\n']
  | .double => doubleQuoted text ++ ['\n']
  | .literal => literalBlock margin text ++ (if endsInBreak text then [] else ['\n'])

end FleetAgent.Yaml
