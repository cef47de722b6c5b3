import FleetAgent.Json.Value

/-!
# Records in messages

A record is written as an object. It is read from an object, whose entries may come in any order and
among which unknown ones are passed over, or from a list with the values in the order of the fields. A
field may be missing if there is something to take in its stead.
-/

namespace FleetAgent.Json

open Reader

/-- How a record is read: its fields are taken one by one into a draft of it. -/
structure Shape (δ α : Type) where
  /-- What the record is called in reports. -/
  kind : String
  fields : List String
  blank : δ
  /-- The field has been taken already. -/
  has : δ → String → Bool
  take : String → δ → Reader δ
  /-- The record, or the name of a field that is missing from the draft. -/
  finish : δ → Except String α

namespace Shape

/-- Takes the values of a list for the given fields, until the list ends. -/
def takeItems (shape : Shape δ α) : Bool → List String → δ → Reader δ
  | _, [], draft => return draft
  | isFirst, field :: fields, draft => do
    if ← hasItem isFirst then takeItems shape false fields (← shape.take field draft)
    else return draft

/-- Takes the entries of an object, of which there are at most so many. -/
def takeEntries (shape : Shape δ α) : Nat → Bool → δ → Reader δ
  | 0, _, draft => return draft
  | limit + 1, isFirst, draft => do
    match ← key? isFirst with
    | none => return draft
    | some key =>
      if shape.fields.contains key then
        if shape.has draft key then reject (.duplicateField key)
        takeColon
        takeEntries shape limit false (← shape.take key draft)
      else
        takeColon
        skipValue
        takeEntries shape limit false draft

/-- How many values a list for the record has to have. -/
def lengthText (shape : Shape δ α) : String :=
  let count := shape.fields.length
  "struct " ++ shape.kind ++ " with " ++ toString count ++ (if count = 1 then " element" else " elements")

/-- The record of a draft; what is missing is reported as fits the collection. -/
def complete (shape : Shape δ α) (missing : String → Reason) (draft : δ) : Reader α :=
  match shape.finish draft with
  | .ok record => return record
  | .error field => reject (missing field)

def read (shape : Shape δ α) : Reader α := value fun byte ↦ do
  if byte = openList then
    advance
    closedBy endList do
      let draft ← shape.takeItems true shape.fields shape.blank
      shape.complete (fun field ↦ .invalidLength (shape.fields.idxOf field) shape.lengthText) draft
  else if byte = openObject then
    advance
    closedBy endObject do
      let draft ← fun text ↦ shape.takeEntries (text.length + 1) true shape.blank text
      shape.complete .missingField draft
  else mismatch byte ("struct " ++ shape.kind)

end Shape

/-! ## Writing -/

def separated : List Bytes → Bytes
  | [] => []
  | [part] => part
  | part :: rest => part ++ comma :: separated rest

def writtenBool (value : Bool) : Bytes :=
  let letters := if value then wordTrue else wordFalse
  letters.1 :: letters.2

def writtenList (items : List Bytes) : Bytes := openList :: separated items ++ [closeList]

def writtenObject (entries : List (String × Bytes)) : Bytes :=
  openObject :: separated (entries.map fun entry ↦ quotedText entry.1 ++ colon :: entry.2) ++ [closeObject]

end FleetAgent.Json
