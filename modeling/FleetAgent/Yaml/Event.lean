import FleetAgent.Yaml.Reading

/-!
# Events

Events tell what a text holds in the order in which it stands there: documents, collections and their
ends, scalars and aliases. They follow from the tokens by the grammar of the notation, which is a
machine with a stack of the collections that are open. Where the tokens end too early or break the
grammar, the events end.
-/

namespace FleetAgent.Yaml

/-- What a node carries besides its content. -/
structure Properties where
  anchor : Option (List Char) := none
  tag : Option (List Char) := none
  deriving DecidableEq, Repr, Inhabited

inductive Happening where
  | documentStart
  | documentEnd
  | streamEnd
  | reference (name : List Char)
  | scalar (properties : Properties) (style : Style) (text : List Char)
  | sequenceStart (properties : Properties)
  | sequenceEnd
  | mappingStart (properties : Properties)
  | mappingEnd
  deriving DecidableEq, Repr, Inhabited

structure Event where
  what : Happening
  mark : Mark
  deriving DecidableEq, Repr, Inhabited

inductive Expected where
  | stream
  | document
  | content
  | documentEnd
  | blockNode
  | firstBlockEntry
  | blockEntry
  | looseEntry
  | firstBlockKey
  | blockKey
  | blockValue
  | firstFlowEntry
  | flowEntry
  | pairKey
  | pairValue
  | pairEnd
  | firstFlowKey
  | flowKey
  | flowValue
  | noFlowValue
  deriving DecidableEq, Repr, Inhabited

structure Machine where
  tokens : List Token
  expected : Expected := .stream
  /-- What is expected after the node at hand, the innermost first. -/
  after : List Expected := []
  /-- The handles of the document with what they stand for. -/
  handles : List (List Char × List Char) := []

namespace Machine

/-- One more event, and the machine behind it. -/
abbrev Step := Option (Event × Machine)

def expect (machine : Machine) (expected : Expected) : Machine := { machine with expected }

/-- Goes back to what the collection around expects. -/
def back (machine : Machine) : Machine :=
  match machine.after with
  | expected :: after => { machine with expected, after }
  | [] => machine

def skip (machine : Machine) : Machine := { machine with tokens := machine.tokens.tail }

def empty (machine : Machine) (mark : Mark) : Step :=
  some (⟨.scalar {} .plain [], mark⟩, machine)

/-! ## Nodes -/

/-- The handles that need not be declared. -/
def standardHandles : List (List Char × List Char) :=
  [(['!'], ['!']), (['!', '!'], "tag:yaml.org,2002:".toList)]

/-- The tag that a handle and a suffix make. -/
def fullTag? (machine : Machine) (handle suffix : List Char) : Option (List Char) :=
  if handle.isEmpty then some suffix
  else ((machine.handles ++ standardHandles).lookup handle).map (· ++ suffix)

/-- An anchor and a tag in either order, the place where they begin, and the machine behind them. -/
def properties (machine : Machine) : Option (Properties × Option Mark × Machine) :=
  match machine.tokens with
  | ⟨.anchor name, start, _⟩ :: ⟨.tag handle suffix, _, _⟩ :: rest => do
    let tag ← machine.fullTag? handle suffix
    return (⟨some name, some tag⟩, some start, { machine with tokens := rest })
  | ⟨.tag handle suffix, start, _⟩ :: ⟨.anchor name, _, _⟩ :: rest => do
    let tag ← machine.fullTag? handle suffix
    return (⟨some name, some tag⟩, some start, { machine with tokens := rest })
  | ⟨.anchor name, start, _⟩ :: rest =>
    some (⟨some name, none⟩, some start, { machine with tokens := rest })
  | ⟨.tag handle suffix, start, _⟩ :: rest => do
    let tag ← machine.fullTag? handle suffix
    return (⟨none, some tag⟩, some start, { machine with tokens := rest })
  | _ => some ({}, none, machine)

def node (machine : Machine) (block loose : Bool) : Step := do
  if let ⟨.reference name, start, _⟩ :: _ := machine.tokens then
    return (⟨.reference name, start⟩, machine.skip.back)
  let (properties, begun?, machine) ← machine.properties
  match machine.tokens with
  | [] => none
  | token :: _ =>
    let mark := begun?.getD token.start
    match token.word with
    | .entry =>
      if loose then return (⟨.sequenceStart properties, mark⟩, machine.expect .looseEntry)
    | .scalar style text =>
      let properties := if properties.tag = some ['!'] then { properties with tag := none } else properties
      return (⟨.scalar properties style text, mark⟩, machine.skip.back)
    | .openBracket => return (⟨.sequenceStart properties, mark⟩, machine.expect .firstFlowEntry)
    | .openBrace => return (⟨.mappingStart properties, mark⟩, machine.expect .firstFlowKey)
    | .blockSequence =>
      if block then return (⟨.sequenceStart properties, mark⟩, machine.expect .firstBlockEntry)
    | .blockMapping =>
      if block then return (⟨.mappingStart properties, mark⟩, machine.expect .firstBlockKey)
    | _ => pure ()
    if begun?.isSome then return (⟨.scalar properties .plain [], mark⟩, machine.back) else none

/-- A node, after which the machine expects what is given. -/
def nodeThen (machine : Machine) (next : Expected) (block loose : Bool) : Step :=
  node { machine with after := next :: machine.after } block loose

/-- The node behind a sign at the given place, or an empty scalar when one of the words follows that
close it. -/
def nodeOrEmpty (machine : Machine) (mark : Mark) (next : Expected) (block loose : Bool)
    (closes : Word → Bool) : Step :=
  match machine.tokens with
  | [] => none
  | token :: _ =>
    if closes token.word then (machine.expect next).empty mark else machine.nodeThen next block loose

/-! ## Documents -/

/-- The directives in front of a document: the handles that they declare, and the tokens behind them.
-/
def directives : Bool → List (List Char × List Char) → List Token →
    Option (List (List Char × List Char) × List Token)
  | versioned, handles, ⟨.version major minor, _, _⟩ :: rest =>
    if versioned || major != 1 || (minor != 1 && minor != 2) then none
    else directives true handles rest
  | versioned, handles, ⟨.tagHandle handle start, _, _⟩ :: rest =>
    if (handles.lookup handle).isSome then none
    else directives versioned (handles ++ [(handle, start)]) rest
  | _, handles, rest => some (handles, rest)

/-- A document that begins with its sign, possibly after directives. -/
def openDocument (machine : Machine) (mark : Mark) : Step := do
  let (handles, tokens) ← directives false [] machine.tokens
  let machine := { machine with tokens, handles }
  match machine.tokens with
  | ⟨.documentStart, _, _⟩ :: _ =>
    return (⟨.documentStart, mark⟩,
      { machine.skip with expected := .content, after := .documentEnd :: machine.after })
  | _ => none

/-- The beginning of a document, or the end of the text. Only the first document may begin without a
sign. -/
def document (machine : Machine) (first : Bool) : Step :=
  let machine := if first then machine
    else { machine with tokens := machine.tokens.dropWhile (·.word = .documentEnd) }
  match machine.tokens with
  | [] => none
  | ⟨.streamEnd, start, _⟩ :: _ => some (⟨.streamEnd, start⟩, machine.skip)
  | token :: _ =>
    let signed := match token.word with
      | .version .. | .tagHandle .. | .documentStart => true
      | _ => false
    if first && !signed then
      some (⟨.documentStart, token.start⟩,
        { machine with expected := .blockNode, after := .documentEnd :: machine.after, handles := [] })
    else machine.openDocument token.start

def closeDocument (machine : Machine) : Step :=
  match machine.tokens with
  | [] => none
  | token :: _ =>
    let machine := if token.word = .documentEnd then machine.skip else machine
    some (⟨.documentEnd, token.start⟩, machine.expect .document)

/-! ## Collections -/

def closesEntry (word : Word) : Bool := word = .entry || word = .blockEnd

def closesLoose (word : Word) : Bool := word = .entry || word = .key || word = .value || word = .blockEnd

def closesPair (word : Word) : Bool := word = .key || word = .value || word = .blockEnd

/-- What comes next in a collection that is open. -/
def inside (machine : Machine) (token : Token) : Step :=
  let first := machine.skip
  match machine.expected, token.word with
  | .blockEntry, .entry => first.nodeOrEmpty token.stop .blockEntry true false closesEntry
  | .blockEntry, .blockEnd => some (⟨.sequenceEnd, token.start⟩, first.back)
  | .looseEntry, .entry => first.nodeOrEmpty token.stop .looseEntry true false closesLoose
  | .looseEntry, _ => some (⟨.sequenceEnd, token.start⟩, machine.back)
  | .blockKey, .key => first.nodeOrEmpty token.stop .blockValue true true closesPair
  | .blockKey, .blockEnd => some (⟨.mappingEnd, token.start⟩, first.back)
  | .blockValue, .value => first.nodeOrEmpty token.stop .blockKey true true closesPair
  | .blockValue, _ => (machine.expect .blockKey).empty token.start
  | _, _ => none

/-- An entry in brackets, with the separator behind it already passed. -/
def bracketEntry (machine : Machine) : Step :=
  match machine.tokens with
  | [] => none
  | ⟨.closeBracket, start, _⟩ :: _ => some (⟨.sequenceEnd, start⟩, machine.skip.back)
  | ⟨.key, start, _⟩ :: _ => some (⟨.mappingStart {}, start⟩, machine.skip.expect .pairKey)
  | _ => machine.nodeThen .flowEntry false false

/-- A key in braces, with the separator in front of it already passed. -/
def braceKey (machine : Machine) : Step :=
  match machine.tokens with
  | [] => none
  | ⟨.closeBrace, start, _⟩ :: _ => some (⟨.mappingEnd, start⟩, machine.skip.back)
  | ⟨.key, _, _⟩ :: rest =>
    let mark := (rest.head?.map Token.start).getD {}
    machine.skip.nodeOrEmpty mark .flowValue false false fun word ↦
      word = .value || word = .comma || word = .closeBrace
  | _ => machine.nodeThen .noFlowValue false false

/-- The value behind a key in brackets or braces, if it has one. -/
def flowValueThen (machine : Machine) (token : Token) (next : Expected) (closing : Word) : Step :=
  if token.word = .value then
    match machine.skip.tokens with
    | [] => none
    | follower :: _ =>
      machine.skip.nodeOrEmpty follower.start next false false fun word ↦
        word = .comma || word = closing
  else (machine.expect next).empty token.start

def step (machine : Machine) : Step :=
  match machine.tokens with
  | [] => none
  | token :: _ =>
    match machine.expected with
    | .stream => machine.skip.document true
    | .document => machine.document false
    | .content =>
      match token.word with
      | .version .. | .tagHandle .. | .documentStart | .documentEnd | .streamEnd =>
        machine.back.empty token.start
      | _ => machine.node true false
    | .documentEnd => machine.closeDocument
    | .blockNode => machine.node true false
    | .firstBlockEntry =>
      match machine.skip.tokens with
      | [] => none
      | next :: _ => (machine.skip.expect .blockEntry).inside next
    | .firstBlockKey =>
      match machine.skip.tokens with
      | [] => none
      | next :: _ => (machine.skip.expect .blockKey).inside next
    | .firstFlowEntry => machine.skip.bracketEntry
    | .flowEntry =>
      match token.word with
      | .closeBracket => machine.bracketEntry
      | .comma => machine.skip.bracketEntry
      | _ => none
    | .pairKey =>
      -- The word that says there is no key is passed over together with its sign.
      if token.word = .value || token.word = .comma || token.word = .closeBracket then
        (machine.skip.expect .pairValue).empty token.stop
      else machine.nodeThen .pairValue false false
    | .pairValue => machine.flowValueThen token .pairEnd .closeBracket
    | .pairEnd => some (⟨.mappingEnd, token.start⟩, machine.expect .flowEntry)
    | .firstFlowKey => machine.skip.braceKey
    | .flowKey =>
      match token.word with
      | .closeBrace => machine.braceKey
      | .comma => machine.skip.braceKey
      | _ => none
    | .flowValue => machine.flowValueThen token .flowKey .closeBrace
    | .noFlowValue => (machine.expect .flowKey).empty token.start
    | _ => machine.inside token

/-- The events of the machine within so many steps. -/
def run : Nat → Machine → List Event
  | 0, _ => []
  | steps + 1, machine =>
    match machine.step with
    | some (event, next) =>
      if event.what = .streamEnd then [event] else event :: run steps next
    | none => []

end Machine

/-- The events of a text, as far as it keeps to the rules. -/
def events (text : String) : List Event :=
  match glyphs? text with
  | none => []
  | some glyphs =>
    let tokens := tokens glyphs
    Machine.run (4 * tokens.length + 8) { tokens }

end FleetAgent.Yaml
