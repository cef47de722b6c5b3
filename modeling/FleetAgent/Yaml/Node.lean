import FleetAgent.Yaml.Event

/-!
# Documents

A document is a tree of nodes. Where the text stopped making sense the tree is cut off: a mark stands
there for all that might have followed, in every collection that was open. A node with an anchor is
kept under a number, and an alias refers to that number; so a tree may refer to itself.
-/

namespace FleetAgent.Yaml

inductive Node where
  | scalar (mark : Mark) (tag : Option (List Char)) (style : Style) (text : List Char)
  | sequence (mark : Mark) (tag : Option (List Char)) (items : List Node)
  | mapping (mark : Mark) (tag : Option (List Char)) (entries : List (Node × Node))
  | reference (mark : Mark) (number : Nat)
  /-- The text makes no sense from here on. -/
  | cut
  deriving Inhabited

namespace Node

def mark : Node → Mark
  | scalar mark .. | sequence mark .. | mapping mark .. | reference mark _ => mark
  | cut => {}

mutual

/-- The text made sense to the end of the node. -/
def isWhole : Node → Bool
  | scalar .. | reference .. => true
  | sequence _ _ items => areWhole items
  | mapping _ _ entries => arePairsWhole entries
  | cut => false

def areWhole : List Node → Bool
  | [] => true
  | node :: rest => node.isWhole && areWhole rest

def arePairsWhole : List (Node × Node) → Bool
  | [] => true
  | (key, value) :: rest => key.isWhole && value.isWhole && arePairsWhole rest

end

/-- Every two nodes as a key with its value. -/
def pairs : List Node → List (Node × Node)
  | key :: value :: rest => (key, value) :: pairs rest
  | [key] => [(key, cut)]
  | [] => []

end Node

/-- A node that an alias may refer to. -/
structure Anchored where
  number : Nat
  /-- How many events came before it. -/
  position : Nat
  node : Node
  deriving Inhabited

structure Open where
  mark : Mark
  tag : Option (List Char)
  /-- The number under which it is kept, if any. -/
  number? : Option Nat
  position : Nat
  isMapping : Bool
  /-- What it holds so far, the latest first. -/
  held : List Node
  deriving Inhabited

structure Assembly where
  /-- The collections that are open, the innermost first. -/
  stack : List Open := []
  root : Option Node := none
  /-- The names of anchors with their numbers, the latest first. -/
  names : List (List Char × Nat) := []
  /-- How many different names there are. -/
  distinct : Nat := 0
  anchored : List Anchored := []
  count : Nat := 0
  deriving Inhabited

namespace Assembly

/-- Puts a node where the next one belongs. -/
def put (assembly : Assembly) (node : Node) : Assembly :=
  match assembly.stack with
  | top :: rest => { assembly with stack := { top with held := node :: top.held } :: rest }
  | [] => { assembly with root := some node }

/-- Gives a name its number, which is the count of the different names so far. -/
def name (assembly : Assembly) : Option (List Char) → Option Nat × Assembly
  | none => (none, assembly)
  | some name =>
    let number := assembly.distinct
    let distinct := if (assembly.names.lookup name).isSome then number else number + 1
    (some number, { assembly with names := (name, number) :: assembly.names, distinct })

def keep (assembly : Assembly) (number? : Option Nat) (position : Nat) (node : Node) : Assembly :=
  match number? with
  | some number => { assembly with anchored := ⟨number, position, node⟩ :: assembly.anchored }
  | none => assembly

def begin (assembly : Assembly) (properties : Properties) (mark : Mark) (isMapping : Bool) : Assembly :=
  let (number?, assembly) := assembly.name properties.anchor
  let top : Open := ⟨mark, properties.tag, number?, assembly.count, isMapping, []⟩
  { assembly with stack := top :: assembly.stack }

def finish (assembly : Assembly) : Assembly :=
  match assembly.stack with
  | [] => assembly
  | top :: rest =>
    let items := top.held.reverse
    let node := if top.isMapping then Node.mapping top.mark top.tag (Node.pairs items)
      else Node.sequence top.mark top.tag items
    ({ assembly with stack := rest }.keep top.number? top.position node).put node

def take (assembly : Assembly) (event : Event) : Option Assembly := do
  let next ← match event.what with
    | .scalar properties style text =>
      let (number?, assembly) := assembly.name properties.anchor
      let node := Node.scalar event.mark properties.tag style text
      some ((assembly.keep number? assembly.count node).put node)
    | .reference name => do
      let number ← assembly.names.lookup name
      some (assembly.put (.reference event.mark number))
    | .sequenceStart properties => some (assembly.begin properties event.mark false)
    | .mappingStart properties => some (assembly.begin properties event.mark true)
    | .sequenceEnd | .mappingEnd => some assembly.finish
    | _ => some assembly
  return { next with count := next.count + 1 }

/-- Closes what is still open behind a cut. -/
def closeCut (assembly : Assembly) : Assembly :=
  if assembly.stack.isEmpty then assembly
  else assembly.stack.foldl (fun assembly _ ↦ assembly.finish) (assembly.put .cut)

end Assembly

structure Document where
  root : Node
  anchored : List Anchored := []
  /-- How many events it consists of. -/
  size : Nat
  /-- The text ends behind the document. -/
  alone : Bool
  deriving Inhabited

namespace Document

/-- The node that an alias of that number refers to. -/
def target? (document : Document) (number : Nat) : Option Node :=
  (document.anchored.filter (·.number = number)).foldl
    (fun best next ↦ match best with
      | some (position, _) => if position < next.position then some (next.position, next.node) else best
      | none => some (next.position, next.node)) (none : Option (Nat × Node))
    |>.map Prod.snd

/-- The document that an assembly has come to when the events break off. -/
def cutOff (assembly : Assembly) : Document :=
  let closed := assembly.closeCut
  ⟨closed.root.getD .cut, closed.anchored, assembly.count, false⟩

/-- Puts the events of a document together. -/
def assemble (assembly : Assembly) : List Event → Document
  | [] => cutOff assembly
  | event :: rest =>
    match event.what with
    | .documentEnd =>
      let alone := match rest with
        | [⟨.streamEnd, _⟩] => true
        | _ => false
      ⟨assembly.root.getD .cut, assembly.anchored, assembly.count, alone⟩
    | _ =>
      match assembly.take event with
      | some next => assemble next rest
      | none => cutOff assembly

/-- The first document of a text; `none` when the text ends before a document begins. -/
def ofText (text : String) : Option Document :=
  match events text with
  | ⟨.streamEnd, _⟩ :: _ => none
  | ⟨.documentStart, _⟩ :: rest => some (assemble {} rest)
  | _ => some ⟨.cut, [], 0, false⟩

end Document

end FleetAgent.Yaml
