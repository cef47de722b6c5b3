import FleetAgent.Text.Ranges

/-!
# Stripping and lowering text

Values read from files and from the environment are stripped of the blanks around them before they
are used. Stripping removes every leading and every trailing blank and nothing between.
-/

namespace FleetAgent.Text

def stripChars (chars : List Char) : List Char :=
  ((chars.dropWhile isBlank).reverse.dropWhile isBlank).reverse

/-- The text without the blanks at either end. -/
def strip (text : String) : String := String.ofList (stripChars text.toList)

/-- Nothing but blanks, or nothing at all. -/
def isBlankText (text : String) : Bool := text.toList.all isBlank

/-- The ASCII capitals in lower case and every other character as it is. -/
def lowerAscii (text : String) : String := String.ofList (text.toList.map Char.toLower)

theorem strip_toList (text : String) : (strip text).toList = stripChars text.toList := by
  simp [strip]

end FleetAgent.Text
