import FleetAgent.Number.Shortest
import FleetAgent.Yaml.Scalar

/-!
# The meaning of plain scalars

A plain scalar without a tag may mean nothing, a truth value, a whole number or a fraction; otherwise
it is a text. Digits that begin with a zero are a text, too, since they are rather a code than a
number.
-/

namespace FleetAgent.Yaml

/-- What a scalar means when it is more than a text. -/
inductive Meaning where
  | null
  | bool (value : Bool)
  | int (value : Int)
  | float (value : Float)

namespace Meaning

def isNull (text : List Char) : Bool :=
  ["~", "null", "Null", "NULL"].contains (String.ofList text)

def bool? (text : List Char) : Option Bool :=
  if ["true", "True", "TRUE"].contains (String.ofList text) then some true
  else if ["false", "False", "FALSE"].contains (String.ofList text) then some false
  else none

def unsignedPart : List Char → List Char
  | '-' :: rest => rest
  | '+' :: rest => rest
  | text => text

def isCode (text : List Char) : Bool :=
  match unsignedPart text with
  | '0' :: next :: rest => (next :: rest).all Char.isDigit
  | _ => false

/-- The number that digits of a base spell. -/
def digits? (base : Nat) (text : List Char) : Option Nat :=
  if text.isEmpty then none
  else text.foldl (fun value? c ↦ do
    let value ← value?
    let digit ← hexDigit? c
    if digit < base then return value * base + digit else none) (some 0)

/-- The number behind the sign of a base, if there is such a sign and only digits behind it. -/
def based? : List Char → Option Nat
  | '0' :: 'x' :: rest => digits? 16 rest
  | '0' :: 'o' :: rest => digits? 8 rest
  | '0' :: 'b' :: rest => digits? 2 rest
  | _ => none

def natural? (text : List Char) : Option Nat :=
  let size := match text with
    | '+' :: rest => rest
    | _ => text
  match based? size with
  | some value => some value
  | none => if isCode text then none else digits? 10 size

def negated? : List Char → Option Nat
  | '-' :: size =>
    match based? size with
    | some value => some value
    | none => if isCode size then none else digits? 10 size
  | _ => none

/-- A whole number of no more than a hundred and twenty-eight bits. -/
def int? (text : List Char) : Option Int :=
  match natural? text with
  | some value => if value < Nat.pow 2 128 then some value else none
  | none =>
    match negated? text with
    | some value => if value ≤ Nat.pow 2 127 then some (-(value : Int)) else none
    | none => none

/-- A fraction, or one of the names of what is no finite number. -/
def float? (text : List Char) : Option Float :=
  let size := match text with
    | '+' :: rest => rest
    | _ => text
  if text.take 1 = ['+'] ∧ (size.take 1 = ['+'] ∨ size.take 1 = ['-']) then none
  else if [".inf", ".Inf", ".INF"].contains (String.ofList size) then some (1 / 0)
  else if ["-.inf", "-.Inf", "-.INF"].contains (String.ofList text) then some (-1 / 0)
  else if [".nan", ".NaN", ".NAN"].contains (String.ofList text) then some (0 / 0)
  else
    let (negative, plain) := match size with
      | '-' :: rest => (true, rest)
      | _ => (false, size)
    match Number.decimal? plain with
    | some decimal =>
      let value := decimal.toFloat
      if value.isFinite then some (if negative then -value else value) else none
    | none => none

/-- The meaning of a plain scalar; `none` when it is just its text. -/
def ofPlain (text : List Char) : Option Meaning :=
  if text.isEmpty || isNull text then some .null
  else match bool? text with
    | some value => some (.bool value)
    | none =>
      match int? text with
      | some value => some (.int value)
      | none => if isCode text then none else (float? text).map .float

end Meaning

/-- How fractions are written in reports about settings: never with an exponent. -/
def fractionNotation : Number.Notation := ⟨none, none, "inf", "NaN"⟩

end FleetAgent.Yaml
