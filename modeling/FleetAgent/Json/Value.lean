import FleetAgent.Json.Number
import FleetAgent.Json.Text

/-!
# Values in messages

The values that a message may hold are read as what the place calls for; a value of another kind is
reported with what it is. A value that nobody asks for is passed over, however deep it is.
-/

namespace FleetAgent.Json

open Reader

def openList : UInt8 := 0x5B
def closeList : UInt8 := 0x5D
def openObject : UInt8 := 0x7B
def closeObject : UInt8 := 0x7D
def comma : UInt8 := 0x2C
def colon : UInt8 := 0x3A
def minus : UInt8 := 0x2D

/-- The words of the notation, each with its first letter apart. -/
def wordNull : UInt8 × Bytes := (0x6E, [0x75, 0x6C, 0x6C])
def wordTrue : UInt8 × Bytes := (0x74, [0x72, 0x75, 0x65])
def wordFalse : UInt8 × Bytes := (0x66, [0x61, 0x6C, 0x73, 0x65])

/-- Takes a word of which the first letter comes next. -/
def takeWord (letters : UInt8 × Bytes) : Reader Unit := do
  advance
  word letters.2

/-! ## Collections -/

def endList : Reader Unit := do
  match ← solid? with
  | none => failNext .endInList
  | some byte =>
    if byte = closeList then advance
    else if byte = comma then
      advance
      if (← solid?) = some closeList then failNext .trailingComma else failNext .trailing
    else failNext .trailing

def endObject : Reader Unit := do
  match ← solid? with
  | none => failNext .endInObject
  | some byte =>
    if byte = closeObject then advance
    else if byte = comma then failNext .trailingComma
    else failNext .trailing

/-- Whether another item of a list comes, and takes what stands in front of it. -/
def hasItem (isFirst : Bool) : Reader Bool := do
  match ← solid? with
  | none => failNext .endInList
  | some byte =>
    if byte = closeList then return false
    else if isFirst then return true
    else if byte = comma then
      advance
      match ← solid? with
      | none => failNext .endInValue
      | some byte => if byte = closeList then failNext .trailingComma else return true
    else failNext .expectedListEnd

/-- The key of another entry of an object, if one comes. -/
def key? (isFirst : Bool) : Reader (Option String) := do
  match ← solid? with
  | none => failNext .endInObject
  | some byte =>
    if byte = closeObject then return none
    else if isFirst then takeKey byte
    else if byte = comma then
      advance
      match ← solid? with
      | none => failNext .endInValue
      | some byte => if byte = closeObject then failNext .trailingComma else takeKey byte
    else failNext .expectedObjectEnd
where
  takeKey (byte : UInt8) : Reader (Option String) := do
    if byte = quote then
      advance
      return some (← readText)
    else failNext .keyNotText

def takeColon : Reader Unit := do
  match ← solid? with
  | none => failNext .endInObject
  | some byte => if byte = colon then advance else failNext .expectedColon

/-! ## Values that are called for -/

def foundNumber : Number → Found
  | .natural value => .int value.toNat
  | .negative value => .int value
  | .fraction value => .float value

/-- Rejects the value that begins with the given byte. A collection is not gone into. -/
def mismatch (byte : UInt8) (expected : String) : Reader α := do
  if byte = wordNull.1 then
    takeWord wordNull
    reject (.invalidType .nothing expected)
  else if byte = wordTrue.1 then
    takeWord wordTrue
    reject (.invalidType (.bool true) expected)
  else if byte = wordFalse.1 then
    takeWord wordFalse
    reject (.invalidType (.bool false) expected)
  else if byte = minus then
    advance
    reject (.invalidType (foundNumber (← readNumber true)) expected)
  else if isDigit byte then
    reject (.invalidType (foundNumber (← readNumber false)) expected)
  else if byte = quote then
    advance
    reject (.invalidType (.text (← readText).toList) expected)
  else if byte = openList then reject (.invalidType .sequence expected)
  else if byte = openObject then reject (.invalidType .mapping expected)
  else failNext .expectedValue

/-- Reads a value by its first byte. -/
def value (read : UInt8 → Reader α) : Reader α := placed do
  match ← solid? with
  | none => failNext .endInValue
  | some byte => read byte

def bool : Reader Bool := value fun byte ↦ do
  if byte = wordTrue.1 then
    takeWord wordTrue
    return true
  else if byte = wordFalse.1 then
    takeWord wordFalse
    return false
  else mismatch byte "a boolean"

def text : Reader String := value fun byte ↦ do
  if byte = quote then
    advance
    readText
  else mismatch byte "a string"

def natural : Reader UInt64 := value fun byte ↦ do
  if byte = minus then
    advance
    match ← readNumber true with
    | .natural value => return value
    | .negative value => reject (.invalidValue (.int value) "u64")
    | .fraction value => reject (.invalidType (.float value) "u64")
  else if isDigit byte then
    match ← readNumber false with
    | .natural value => return value
    | other => reject (.invalidType (foundNumber other) "u64")
  else mismatch byte "u64"

def optional (read : Reader α) : Reader (Option α) := do
  if (← solid?) = some wordNull.1 then
    takeWord wordNull
    return none
  else return some (← read)

/-- The items of a list, of which there are at most so many. -/
def itemsOnto (read : Reader α) : Nat → Bool → List α → Reader (List α)
  | 0, _, items => return items.reverse
  | limit + 1, isFirst, items => do
    if ← hasItem isFirst then itemsOnto read limit false ((← read) :: items) else return items.reverse

/-- A list; no text holds more items than bytes. -/
def list (read : Reader α) : Reader (List α) := value fun byte ↦ do
  if byte = openList then
    advance
    closedBy endList fun text ↦ itemsOnto read (text.length + 1) true [] text
  else mismatch byte "a sequence"

/-! ## Values that are passed over -/

/-- A collection that is being passed over. -/
inductive Frame where
  | list
  | object
  deriving DecidableEq

namespace Frame

def closer : Frame → UInt8
  | list => closeList
  | object => closeObject

def endReason : Frame → Reason
  | list => .endInList
  | object => .endInObject

def expectedReason : Frame → Reason
  | list => .expectedListEnd
  | object => .expectedObjectEnd

/-- Takes what stands in front of the values of the collection: in an object, a key. -/
def enter : Frame → Reader Unit
  | list => return
  | object => do
    match ← solid? with
    | none => failNext .endInObject
    | some byte =>
      if byte = quote then
        advance
        skipText
        takeColon
      else failNext .keyNotText

end Frame

mutual

/-- Passes over a value that lies in the given collections, the innermost first, and on to the end of
the outermost. -/
def skipWithin : Nat → List Frame → Reader Unit
  | 0, _ => return
  | steps + 1, frames => do
    match ← solid? with
    | none => failNext .endInValue
    | some byte =>
      if byte = openList then
        advance
        skipEntries steps false (.list :: frames)
      else if byte = openObject then
        advance
        skipEntries steps false (.object :: frames)
      else
        if byte = wordNull.1 then takeWord wordNull
        else if byte = wordTrue.1 then takeWord wordTrue
        else if byte = wordFalse.1 then takeWord wordFalse
        else if byte = minus then
          advance
          skipNumber
        else if isDigit byte then skipNumber
        else if byte = quote then
          advance
          skipText
        else failNext .expectedValue
        skipEntries steps true frames

/-- Goes on in the innermost collection; `behindValue` says whether a comma may follow. -/
def skipEntries : Nat → Bool → List Frame → Reader Unit
  | 0, _, _ => return
  | _, _, [] => return
  | steps + 1, behindValue, frame :: frames => do
    match ← solid? with
    | none => failNext frame.endReason
    | some byte =>
      if byte = comma ∧ behindValue then
        advance
        frame.enter
        skipWithin steps (frame :: frames)
      else if byte = frame.closer then
        advance
        skipEntries steps true frames
      else if behindValue then failNext frame.expectedReason
      else
        frame.enter
        skipWithin steps (frame :: frames)

end

def skipValue : Reader Unit := fun text ↦ skipWithin (2 * text.length + 2) [] text

end FleetAgent.Json
