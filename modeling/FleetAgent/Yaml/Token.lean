import FleetAgent.Yaml.Glyph

/-!
# Tokens

The words of the notation: the signs that shape collections, including those that only the indentation
tells, and the names, tags and scalars that nodes are made of.
-/

namespace FleetAgent.Yaml

inductive Style where
  | plain
  | single
  | double
  | literal
  | folded
  deriving DecidableEq, Repr, Inhabited

inductive Word where
  | streamStart
  | streamEnd
  | version (major minor : Nat)
  | tagHandle (handle start : List Char)
  | documentStart
  | documentEnd
  | blockSequence
  | blockMapping
  | blockEnd
  | openBracket
  | closeBracket
  | openBrace
  | closeBrace
  | entry
  | comma
  | key
  | value
  | reference (name : List Char)
  | anchor (name : List Char)
  | tag (handle suffix : List Char)
  | scalar (style : Style) (text : List Char)
  deriving DecidableEq, Repr, Inhabited

structure Token where
  word : Word
  start : Mark
  stop : Mark
  deriving DecidableEq, Repr, Inhabited

end FleetAgent.Yaml
