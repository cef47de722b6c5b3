import FleetAgent.Json.Reader
import FleetAgent.Text.Hex

/-!
# Text in messages

A text stands between quotes. A quote, a backslash and the controls in it are written as escapes; any
other byte of its encoding stands for itself. Reading takes every escape of the notation, among them
pairs of escapes for the code points beyond sixteen bits.
-/

namespace FleetAgent.Json

def quote : UInt8 := 0x22
def backslash : UInt8 := 0x5C
/-- The letter `u`, which begins the escape of a code point. -/
def codeLetter : UInt8 := 0x75

/-- The bytes that have an escape of one letter, each with its letter. -/
def letterEscapes : List (UInt8 × UInt8) :=
  [(0x22, 0x22), (0x5C, 0x5C), (0x08, 0x62), (0x0C, 0x66), (0x0A, 0x6E), (0x0D, 0x72), (0x09, 0x74)]

/-! ## Writing -/

/-- A byte of a text as it is written. -/
def escapeByte (byte : UInt8) : Bytes :=
  match letterEscapes.lookup byte with
  | some letter => [backslash, letter]
  | none =>
    if byte < 0x20 then [backslash, codeLetter, 0x30, 0x30] ++ (Text.Hex.write [byte]).toUTF8.toList
    else [byte]

def quotedText (text : String) : Bytes := quote :: text.toUTF8.toList.flatMap escapeByte ++ [quote]

/-! ## Reading -/

/-- The value of four digits. -/
def codeUnit : Bytes → Except Fault Nat
  | a :: b :: c :: d :: rest =>
    match [a, b, c, d].mapM Text.Hex.digit? with
    | some digits => .ok (digits.foldl (fun n digit ↦ n * 16 + digit.toNat) 0)
    | none => .error ⟨.badEscape, some rest⟩
  | _ => .error ⟨.endInString, some []⟩

def isLeading (unit : Nat) : Bool := 0xD800 ≤ unit && unit ≤ 0xDBFF

def isTrailing (unit : Nat) : Bool := 0xDC00 ≤ unit && unit ≤ 0xDFFF

def encoded (code : Nat) : Bytes := (String.singleton (Char.ofNat code)).toUTF8.toList

/-- The code point that begins with a leading unit: a second escape has to follow with a trailing
one. -/
def paired (leading : Nat) : Bytes → Except Fault Nat
  | [] => .error ⟨.endInString, some []⟩
  | b :: rest =>
    if b ≠ backslash then .error ⟨.halfSurrogate, some rest⟩
    else match rest with
      | [] => .error ⟨.endInString, some []⟩
      | c :: rest =>
        if c ≠ codeLetter then .error ⟨.halfSurrogate, some rest⟩
        else do
          let trailing ← codeUnit rest
          if isTrailing trailing then
            return 0x10000 + (leading - 0xD800) * 0x400 + (trailing - 0xDC00)
          else throw ⟨.loneSurrogate, some (rest.drop 4)⟩

/-- What the text behind a backslash stands for, and how many bytes of it that takes. -/
def escaped : Bytes → Except Fault (Bytes × Nat)
  | [] => .error ⟨.endInString, some []⟩
  | letter :: rest =>
    if letter = codeLetter then do
      let unit ← codeUnit rest
      if isTrailing unit then throw ⟨.loneSurrogate, some (rest.drop 4)⟩
      if isLeading unit then return (encoded (← paired unit (rest.drop 4)), 11)
      return (encoded unit, 5)
    else if letter = 0x2F then .ok ([0x2F], 1)
    else match letterEscapes.find? (·.2 = letter) with
      | some (byte, _) => .ok ([byte], 1)
      | none => .error ⟨.badEscape, some rest⟩

/-- A byte of a text with what lies behind it, or behind the escape that it comes from. -/
abbrev Piece := UInt8 × Bytes

/-- Takes a text up to its closing quote. The pieces before it are given, the latest first. -/
def piecesOnto (pieces : List Piece) : Bytes → Except Fault (List Piece × Bytes)
  | [] => .error ⟨.endInString, some []⟩
  | byte :: rest =>
    if byte = quote then .ok (pieces.reverse, rest)
    else if byte = backslash then
      match escaped rest with
      | .error fault => .error fault
      | .ok (bytes, count) =>
        let rest' := rest.drop count
        piecesOnto ((bytes.map (·, rest')).reverse ++ pieces) rest'
    else if byte < 0x20 then .error ⟨.controlCharacter, some rest⟩
    else piecesOnto ((byte, rest) :: pieces) rest
termination_by text => text.length
decreasing_by all_goals simp; try omega

/-- What lies behind the first byte that belongs to no character. -/
def behindBadByte (pieces : List Piece) : Bytes :=
  let good := ((List.range (pieces.length + 1)).reverse.find? fun n ↦
    (String.fromUTF8? ((pieces.take n).map Prod.fst).toByteArray).isSome).getD 0
  ((pieces[good]?).map Prod.snd).getD []

/-- Takes a text whose opening quote has been taken. -/
def readText : Reader String := .ofFunction fun text ↦ do
  let (pieces, rest) ← piecesOnto [] text
  match String.fromUTF8? (pieces.map Prod.fst).toByteArray with
  | some value => return (value, rest)
  | none => throw ⟨.badText, some (behindBadByte pieces)⟩

/-- Passes over a text up to its closing quote, whatever it stands for. -/
def passText : Bytes → Except Fault Bytes
  | [] => .error ⟨.endInString, some []⟩
  | byte :: rest =>
    if byte = quote then .ok rest
    else if byte = backslash then
      match rest with
      | [] => .error ⟨.endInString, some []⟩
      | letter :: rest =>
        if letter = codeLetter then
          match codeUnit rest with
          | .ok _ => passText (rest.drop 4)
          | .error fault => .error fault
        else if letter = 0x2F || letterEscapes.any (·.2 = letter) then passText rest
        else .error ⟨.badEscape, some rest⟩
    else if byte < 0x20 then .error ⟨.controlCharacter, some (byte :: rest)⟩
    else passText rest
termination_by text => text.length
decreasing_by all_goals simp; try omega

def skipText : Reader Unit := .ofFunction fun text ↦ (passText text).map ((), ·)

end FleetAgent.Json
