import FleetAgent.Settings.Basic
import FleetAgent.Settings.Rejection

/-!
# Reading settings from a document

The settings are the entries of one mapping. Every entry that the settings know is read as the kind of
value that belongs there, and no such entry may occur twice; all others are passed over. What is not
given keeps its default.

An alias is read as the node that it refers to, but not without end: a document may follow only so
many aliases, and its collections may lie only so deep.
-/

namespace FleetAgent.Settings

open Yaml (Node Document Style)

/-- Reading counts the aliases that it follows. -/
abbrev ReadM := StateT Nat (Except SettingsFault)

/-- The node that is being read: its document, the way to it, and how deep collections may still lie. -/
structure Field where
  document : Document
  path : FieldPath := []
  depth : Nat := 128
  node : Node

namespace Field

/-- Rejects with the place still to be told. -/
def reject (reason : Reason) : ReadM α := throw (.rejected ⟨reason, none⟩)

/-- The field's place is told with a rejection that has none yet. -/
def placed (field : Field) (act : ReadM α) : ReadM α := fun count ↦
  match act count with
  | .error (.rejected ⟨reason, none⟩) =>
    .error (.rejected ⟨reason, some ⟨field.path, field.node.mark⟩⟩)
  | result => result

/-- The aliases that may be followed for every event of a document. -/
def aliasLimit : Nat := 100

/-- The field with an alias replaced by what it refers to. -/
def follow (field : Field) : ReadM Field := do
  match field.node with
  | .reference _ number =>
    let count ← get
    if field.document.size * aliasLimit < count + 1 then throw .unreadable
    set (count + 1)
    match field.document.target? number with
    | some node => return { field with node }
    | none => throw .unreadable
  | .cut => throw .unreadable
  | _ => return field

def child (field : Field) (step : FieldStep) (depth : Nat) (node : Node) : Field :=
  { field with path := step :: field.path, depth, node }

/-- How a key shows in the way to its value. -/
def stepOf : Node → FieldStep
  | .scalar _ _ _ text => .key text
  | _ => .unnamed

/-! ## Scalars -/

/-- The tag of that name in the notation's own vocabulary. -/
def coreTag (name : String) : List Char := ("tag:yaml.org,2002:" ++ name).toList

/-- The tag is an application's own. -/
def isLocal (tag : Option (List Char)) : Bool := tag.any fun chars ↦ chars.head? == some '!'

/-- What a scalar is, or that its tag is wrong about it. -/
def scalarValue (tag : Option (List Char)) (style : Style) (text : List Char) : Except Reason Found :=
  let plain := match Yaml.Meaning.ofPlain text with
    | some meaning => Found.ofMeaning meaning
    | none => .text text
  let wrong (expected : String) : Except Reason Found := .error (.invalidValue (.text text) expected)
  match tag with
  | none => .ok (if style = .plain then plain else .text text)
  | some chars =>
    if chars = coreTag "bool" then
      match Yaml.Meaning.bool? text with
      | some value => .ok (.bool value)
      | none => wrong "a boolean"
    else if chars = coreTag "int" then
      match Yaml.Meaning.int? text with
      | some value => .ok (.int value)
      | none => wrong "an integer"
    else if chars = coreTag "float" then
      match Yaml.Meaning.float? text with
      | some value => .ok (.float value)
      | none => wrong "a float"
    else if chars = coreTag "null" then
      if Yaml.Meaning.isNull text then .ok .nothing else wrong "null"
    else .ok (if isLocal tag ∧ style = .plain then plain else .text text)

/-- Rejects a node that is not what was expected. -/
def mismatch (node : Node) (expected : String) : ReadM α :=
  match node with
  | .sequence .. => reject (.invalidType .sequence expected)
  | .mapping .. => reject (.invalidType .mapping expected)
  | .scalar _ tag style text =>
    match scalarValue tag style text with
    | .ok found => reject (.invalidType found expected)
    | .error reason => reject reason
  | _ => throw .unreadable

def text (field : Field) (expected : String := "a string") : ReadM String := do
  let field ← field.follow
  field.placed do
    match field.node with
    | .scalar _ _ _ text => return String.ofList text
    | node => mismatch node expected

/-- The scalar stands for a value of the tag's kind and not for a text: it is plain, or it is literal
and has the tag. -/
def standsFor (name : String) (tag : Option (List Char)) (style : Style) : Bool :=
  style = .plain || (style = .literal && tag = some (coreTag name))

def bool (field : Field) : ReadM Bool := do
  let field ← field.follow
  field.placed do
    match field.node with
    | .scalar _ tag style text =>
      if standsFor "bool" tag style then
        if let some value := Yaml.Meaning.bool? text then return value
    | _ => pure ()
    mismatch field.node "a boolean"

/-- A whole number from zero up to the bound. -/
def natural (field : Field) (bound : Nat) (kind : String) : ReadM Nat := do
  let field ← field.follow
  field.placed do
    match field.node with
    | .scalar _ tag style text =>
      if standsFor "int" tag style then
        if let some value := Yaml.Meaning.natural? text then
          if value < bound then return value
          if value < UInt64.size then reject (.invalidValue (.int value) kind)
    | _ => pure ()
    mismatch field.node kind

def word16 (field : Field) : ReadM UInt16 := do return (← field.natural UInt16.size "u16").toUInt16

def word64 (field : Field) : ReadM UInt64 := do return (← field.natural UInt64.size "u64").toUInt64

/-- The value, unless the field says that there is none. -/
def optional (field : Field) (read : Field → ReadM α) : ReadM (Option α) := do
  let field ← field.follow
  match field.node with
  | .scalar _ tag .plain text =>
    match tag with
    | none => if text.isEmpty || Yaml.Meaning.isNull text then return none
    | some chars =>
      if chars = coreTag "null" then
        if Yaml.Meaning.isNull text then return none
        reject (.invalidValue (.text text) "null")
  | _ => pure ()
  return some (← read field)

/-! ## One or many texts -/

/-- What a value of any kind comes to when only texts and lists of texts are wanted. -/
inductive Content where
  | text (value : String)
  | list (items : List Content)
  | other

/-- Reads a value of any kind. Numbers of more than sixty-four bits and an application's own tags are
refused wherever they occur. -/
def content : Nat → Field → ReadM Content
  | depth, field => do
    let field ← field.follow
    let refuseTag (tag : Option (List Char)) : ReadM Unit :=
      if isLocal tag then throw .unreadable else pure ()
    match field.node with
    | .scalar _ tag style text =>
      refuseTag tag
      field.placed do
        match scalarValue tag style text with
        | .error reason => reject reason
        | .ok (.text value) => return .text (String.ofList value)
        | .ok (.int value) =>
          if Found.wide value = "" then return .other
          reject (.invalidType (.int value) "any value")
        | .ok _ => return .other
    | .sequence _ tag items =>
      refuseTag tag
      match depth with
      | 0 => throw .unreadable
      | depth + 1 =>
        let read ← items.zipIdx.mapM fun (item, n) ↦ content depth (field.child (.index n) depth item)
        return .list read
    | .mapping _ tag entries =>
      refuseTag tag
      match depth with
      | 0 => throw .unreadable
      | depth + 1 =>
        for (key, value) in entries do
          let _ ← content depth { field with node := key }
          let _ ← content depth (field.child (stepOf key) depth value)
        return .other
    | _ => throw .unreadable

/-- The texts that a content comes to. -/
def Content.texts? : Content → Option (List String)
  | text value => some [value]
  | list items => items.mapM fun
    | text value => some value
    | _ => none
  | other => none

def oneOrMany (field : Field) : ReadM (List String) := do
  match ← field.optional fun field ↦ content field.depth field with
  | none => return []
  | some content =>
    match content.texts? with
    | some texts => return texts
    | none => reject .neitherOneNorMany

/-! ## Sections -/

def ignore (node : Node) : ReadM Unit := if node.isWhole then pure () else throw .unreadable

/-- Reads the entries of a mapping one after the other. `read` takes an entry that it knows into what
has been read so far. -/
def entriesInto (field : Field) (depth : Nat) (known : List String)
    (read : String → Field → α → ReadM α) : List String → α → List (Node × Node) → ReadM α
  | _, value, [] => return value
  | seen, value, (key, entry) :: rest => do
    let name ← text { field with node := key } "field identifier"
    if !known.contains name then
      ignore entry
      entriesInto field depth known read seen value rest
    else
      if seen.contains name then reject (.duplicateField name)
      let value ← read name (field.child (stepOf key) depth entry) value
      entriesInto field depth known read (name :: seen) value rest

/-- Reads a mapping, or an empty value in its stead. -/
def record (field : Field) (kind : String) (known : List String) (blank : α)
    (read : String → Field → α → ReadM α) : ReadM α := do
  let field ← field.follow
  field.placed do
    match field.node with
    | .mapping _ _ entries =>
      match field.depth with
      | 0 => throw .unreadable
      | depth + 1 => entriesInto field depth known read [] blank entries
    | .scalar _ _ .plain [] => return blank
    | node => mismatch node ("struct " ++ kind)

end Field

def metricsKeys : List String := ["bind", "port", "ca_cert", "cert", "priv_key"]

def metricsEntry (name : String) (field : Field) (metrics : Metrics) : ReadM Metrics :=
  match name with
  | "bind" => return { metrics with bind := ← field.text }
  | "port" => return { metrics with port := ← field.word16 }
  | "ca_cert" => return { metrics with caCert := ← field.text }
  | "cert" => return { metrics with cert := ← field.text }
  | "priv_key" => return { metrics with key := ← field.text }
  | _ => return metrics

def tlsKeys : List String := ["ca_cert", "cert", "priv_key", "insecure_ca"]

def tlsEntry (name : String) (field : Field) (tls : Tls) : ReadM Tls :=
  match name with
  | "ca_cert" => return { tls with caCert := ← field.text }
  | "cert" => return { tls with cert := ← field.text }
  | "priv_key" => return { tls with key := ← field.text }
  | "insecure_ca" => return { tls with skipCaCheck := ← field.bool }
  | _ => return tls

def keys : List String :=
  ["controllers", "tftp_root", "tftp_port", "cluster_id", "debug", "metrics", "rpc", "supervisord",
   "proxy", "ntp_bind_addr", "ntp_refresh_rate"]

def entry (name : String) (field : Field) (settings : Settings) : ReadM Settings :=
  match name with
  | "controllers" => return { settings with controllers := ← field.oneOrMany }
  | "tftp_root" => return { settings with tftpRoot := ← field.text }
  | "tftp_port" => return { settings with tftpPort := ← field.word16 }
  | "cluster_id" => return { settings with clusterId := ← field.text }
  | "debug" => return { settings with debug := ← field.bool }
  | "metrics" => return { settings with metrics := ← field.record "MetricsConfig" metricsKeys {} metricsEntry }
  | "rpc" => return { settings with tls := ← field.record "TlsConfig" tlsKeys {} tlsEntry }
  | "supervisord" => return { settings with supervisor := ← field.optional fun field ↦ field.text }
  | "proxy" => return { settings with proxy := ← field.bool }
  | "ntp_bind_addr" => return { settings with ntpBindAddr := ← field.text }
  | "ntp_refresh_rate" => return { settings with ntpRefreshRate := ← field.word64 }
  | _ => return settings

def ofDocument (document : Document) : Except SettingsFault Settings := do
  let field : Field := { document, node := document.root }
  let (settings, _) ← (field.record "RackConfig" keys {} entry).run 0
  if document.alone then return settings else throw .unreadable

/-- The settings that a text holds. A text without a document holds the defaults. -/
def ofText (text : String) : Except SettingsFault Settings :=
  match Document.ofText text with
  | none => .ok {}
  | some document => ofDocument document

end FleetAgent.Settings
