import FleetAgent.Log.Verbosity
import FleetAgent.Number.Natural
import FleetAgent.Text.Letters
import FleetAgent.Text.Split

/-!
# Directives

A list of directives says for each part of the program how much of it is reported. A directive is about
the events whose target begins with its own, or about all events, and it may ask for a field as well.
Of the directives that are about an event the most specific one decides, and an event that none of them
is about is not reported.

One text holds the whole list, separated by commas. A directive may also name a span, or a value of a
field; it is then about events within such a span only, and this program has no spans.
-/

namespace FleetAgent.Log

/-- A field that a directive asks for; it may ask for one of its values. -/
structure FieldAsked where
  name : List Char
  valued : Bool
  deriving DecidableEq, Repr

structure Directive where
  target : Option (List Char) := none
  span : Option (List Char) := none
  field : Option FieldAsked := none
  verbosity : Verbosity := .upTo .trace
  deriving DecidableEq, Repr

/-! ## Reading -/

namespace Verbosity

def ofDetail? : Nat → Option Verbosity
  | 0 => some .off
  | 1 => some (.upTo .error)
  | 2 => some (.upTo .warn)
  | 3 => some (.upTo .info)
  | 4 => some (.upTo .debug)
  | 5 => some (.upTo .trace)
  | _ => none

def ofName? (name : String) : Option Verbosity :=
  match Text.lowerAscii name with
  | "off" => some .off
  | "error" => some (.upTo .error)
  | "warn" => some (.upTo .warn)
  | "info" => some (.upTo .info)
  | "debug" => some (.upTo .debug)
  | "trace" => some (.upTo .trace)
  | _ => none

/-- The verbosity that a directive gives by name or by number. -/
def ofDirective? (chars : List Char) : Option Verbosity :=
  ((Number.word64? chars).bind ofDetail?).orElse fun _ ↦ ofName? (String.ofList chars)

end Verbosity

namespace Directive

def cut (text : List Char) (first last : Nat) : List Char := (text.take last).drop first

/-- The position of the first character from the given one on that is among the marks, and which one
it is. -/
def findMark? (marks text : List Char) (first : Nat) : Option (Nat × Char) :=
  let before := (text.drop first).takeWhile fun c ↦ !marks.contains c
  (text[first + before.length]?).map fun mark ↦ (first + before.length, mark)

/-- The level at the end, from the given position on; an empty one is the most detailed level. -/
def withLevel (directive : Directive) (text : List Char) (first : Nat) : Option Directive :=
  match text.drop first with
  | [] => some directive
  | chars => (Verbosity.ofDirective? chars).map fun verbosity ↦ { directive with verbosity }

/-- What follows the closing bracket. -/
def afterBracket (directive : Directive) (text scanned : List Char) (position : Nat) : Option Directive :=
  match scanned[position]? with
  | none => some directive
  | some '=' => directive.withLevel text (position + 1)
  | some _ => none

/-- The field that a text between braces asks for. -/
def fieldOf (chars : List Char) : FieldAsked :=
  ⟨chars.takeWhile (· ≠ '='), chars.contains '='⟩

def inBraces (directive : Directive) (text scanned : List Char) (first : Nat) : Option Directive := do
  let (close, _) ← findMark? ['\x7d'] scanned first
  let chars := cut text first close
  if chars ≠ [] ∧ scanned[close + 1]? = some ']' then
    afterBracket { directive with field := some (fieldOf chars) } text scanned (close + 2)
  else none

def inBrackets (directive : Directive) (text scanned : List Char) (first : Nat) : Option Directive := do
  let (position, mark) ← findMark? [']', '\x7b'] scanned first
  let chars := cut text first position
  if mark = ']' then afterBracket { directive with span := some chars } text scanned (position + 1)
  else
    inBraces { directive with span := if chars = [] then none else some chars } text scanned (position + 1)

/-- A single word is a level if it can be one, and else a target. -/
def ofWord (text : List Char) : Directive :=
  match Verbosity.ofDirective? text with
  | some verbosity => { verbosity }
  | none => { target := some text }

/-- What a directive begins with when it names a target or a level. -/
def ofTarget? (text scanned : List Char) : Option Directive :=
  match findMark? ['=', '['] scanned 0 with
  | none => some (ofWord text)
  | some (position, mark) =>
    let directive : Directive := { target := some (cut text 0 position) }
    if mark = '=' then directive.withLevel text (position + 1)
    else directive.inBrackets text scanned (position + 1)

/-- The character can begin a target or a level. -/
def beginsWord (c : Char) : Bool := ['-', ':', '_'].contains c || Text.isAlphanumeric c

/-- Reads one directive. Marks are looked for in the text without the blanks around it; the parts
between them are cut out of the whole text, at the same positions counted from its own beginning. -/
def ofChars? (text : List Char) : Option Directive :=
  let scanned := Text.stripChars text
  match scanned with
  | [] => none
  | '[' :: _ => inBrackets {} text scanned 1
  | c :: _ => if beginsWord c then ofTarget? text scanned else none

end Directive

/-! ## Deciding -/

/-- What is reported, given by directives in the order in which they were written. -/
structure Filter where
  directives : List Directive
  deriving DecidableEq, Repr

namespace Directive

/-- The directive decides about single events, whatever span they are in. -/
def isPlain (directive : Directive) : Bool :=
  directive.span.isNone && !(directive.field.any (·.valued))

/-- The event has the field; every event has its message. -/
def hasField (event : Event) (name : List Char) : Bool :=
  ("message" :: event.fields.map (·.1)).any fun own ↦ own.toList = name

def concerns (directive : Directive) (event : Event) : Bool :=
  directive.isPlain && directive.target.all (·.isPrefixOf event.target.toList)
    && directive.field.all fun field ↦ hasField event field.name

/-- How long the target is, counted from one; zero without a target. -/
def reach (directive : Directive) : Nat :=
  match directive.target with
  | some target => target.length + 1
  | none => 0

/-- The name of the field that is asked for, and before all names that there is none. -/
def fieldKey (directive : Directive) : List (List Char) := (directive.field.map (·.name)).toList

/-- Of two directives about one event the second one decides: it has the longer target, or the same
one and a field, or it comes later. -/
def yields (first second : Directive) : Bool :=
  first.reach < second.reach || (first.reach = second.reach && !(second.fieldKey < first.fieldKey))

end Directive

namespace Filter

/-- The filter that reports everything up to a verbosity. -/
def ofVerbosity (verbosity : Verbosity) : Filter := ⟨[{ verbosity }]⟩

/-- Reads a list of directives; a single one that cannot be read spoils it. -/
def ofText? (text : String) : Option Filter :=
  ((Text.stretches ',' text.toList).filter (· ≠ [])).mapM Directive.ofChars? |>.map Filter.mk

/-- The one of two directives that decides. -/
def prefer (best : Option Directive) (next : Directive) : Option Directive :=
  match best with
  | none => some next
  | some best => if best.yields next then some next else some best

/-- The directive that decides about an event. -/
def decisive? (filter : Filter) (event : Event) : Option Directive :=
  (filter.directives.filter (·.concerns event)).foldl prefer none

def admits (filter : Filter) (event : Event) : Bool :=
  (filter.decisive? event).any fun directive ↦ directive.verbosity.admits event.level

end Filter

end FleetAgent.Log
