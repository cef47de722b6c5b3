import FleetAgent.Yaml.Writing

/-!
# Sheets

A sheet is a document of a simple shape: named entries, each of them a scalar, a list of texts, or a
section of named scalars. It is written with one entry, item or scalar on each line.
-/

namespace FleetAgent.Yaml

inductive Scalar where
  | text (value : String)
  | bool (value : Bool)
  | number (value : Nat)
  deriving DecidableEq, Repr

inductive SheetEntry where
  | scalar (value : Scalar)
  | list (items : List String)
  | block (entries : List (String × Scalar))
  deriving DecidableEq, Repr

abbrev Sheet := List (String × SheetEntry)

/-- A scalar up to the end of its last line, under a margin. -/
def Scalar.lines (margin : List Char) : Scalar → List Char
  | text value => textLines margin value.toList
  | bool value => (if value then "true\n" else "false\n").toList
  | number value => Nat.toDigits 10 value ++ ['\n']

namespace SheetEntry

def itemLines (items : List String) : List Char :=
  items.flatMap fun item ↦ '-' :: ' ' :: textLines step item.toList

def blockLines (entries : List (String × Scalar)) : List Char :=
  entries.flatMap fun (name, value) ↦ step ++ name.toList ++ ':' :: ' ' :: value.lines (step ++ step)

def lines : SheetEntry → List Char
  | scalar value => ' ' :: value.lines step
  | list [] => " []\n".toList
  | list items => '\n' :: itemLines items
  | block [] => " \x7b\x7d\n".toList
  | block entries => '\n' :: blockLines entries

end SheetEntry

def Sheet.text (sheet : Sheet) : String :=
  String.ofList (sheet.flatMap fun (name, entry) ↦ name.toList ++ ':' :: entry.lines)

end FleetAgent.Yaml
