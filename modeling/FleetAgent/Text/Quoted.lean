import FleetAgent.Text.Ranges

/-!
# Quoted text

The quoted form of a text stands on one line and shows every character: the quote and the backslash
are escaped, the common controls have their letter, and whatever has no visible form, or would join
the character before it, is written by its code point. A single character has the same form between
single quotes.
-/

namespace FleetAgent.Text

def hexOf (n : Nat) : List Char := Nat.toDigits 16 n

/-- The character would not show as itself. -/
def needsCodePoint (c : Char) : Bool := extenders.has c || unprintables.has c

/-- One character inside the given quotes. -/
def escapeChar (quote c : Char) : List Char :=
  if c = '\x00' then ['\\', '0']
  else if c = '\t' then ['\\', 't']
  else if c = '\r' then ['\\', 'r']
  else if c = '\n' then ['\\', 'n']
  else if c = quote ∨ c = '\\' then ['\\', c]
  else if needsCodePoint c then ['\\', 'u', '\x7b'] ++ hexOf c.toNat ++ ['\x7d']
  else [c]

def quotedChars (chars : List Char) : List Char :=
  '"' :: chars.flatMap (escapeChar '"') ++ ['"']

/-- The text between double quotes. -/
def quoted (text : String) : String := String.ofList (quotedChars text.toList)

def quotedChar (c : Char) : String := String.ofList ('\'' :: escapeChar '\'' c ++ ['\''])

/-- A record by its name and its fields, whose values are already in their shown form. -/
def shownRecord (name : String) (fields : List (String × String)) : String :=
  let shown := fields.map fun field ↦ field.1 ++ ": " ++ field.2
  name ++ " \x7b " ++ ", ".intercalate shown ++ " \x7d"

/-- The texts, each quoted, between brackets. -/
def quotedList (texts : List String) : String :=
  "[" ++ ", ".intercalate (texts.map quoted) ++ "]"

end FleetAgent.Text
