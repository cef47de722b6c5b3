import FleetAgent.Control.Message
import FleetAgent.Proofs.MessageValues
import Mathlib.Data.List.Forall2

/-!
# Messages read back

A message is written with its fields in order, and reading takes them one by one into a draft. Every field
that was written is taken for what it was, so what comes back depends on the fields that were left out. A
message leaves out just the fields that it would get back without them.
-/

namespace FleetAgent.Json

open Reader

variable {δ α : Type} {rest : Bytes}

/-- A field with its written value, and what taking it makes of a draft. -/
structure Member (δ : Type) where
  key : String
  written : Bytes
  put : δ → δ

namespace Member

def entry (member : Member δ) : String × Bytes := (member.key, member.written)

def putAll (members : List (Member δ)) (draft : δ) : δ := members.foldl (fun draft member ↦ member.put draft) draft

def object (members : List (Member δ)) : Bytes := writtenObject (members.map entry)

end Member

/-- The draft can take the members: they are different fields of the record that have not been taken yet, and
each value is read back and touches no other field. -/
structure Shape.Awaits (shape : Shape δ α) (draft : δ) (members : List (Member δ)) : Prop where
  known : ∀ member ∈ members, shape.fields.contains member.key = true
  fresh : ∀ member ∈ members, shape.has draft member.key = false
  distinct : (members.map Member.key).Nodup
  taken : ∀ member ∈ members, ∀ draft, ReadsBack (shape.take member.key draft) member.written (member.put draft)
  apart : ∀ member ∈ members, ∀ draft key, key ≠ member.key → shape.has (member.put draft) key = shape.has draft key

namespace Shape.Awaits

variable {shape : Shape δ α} {draft : δ} {member : Member δ} {members : List (Member δ)}

/-- Behind a member that was taken the draft can take those that are left. -/
theorem next (h : shape.Awaits draft (member :: members)) : shape.Awaits (member.put draft) members := by
  obtain ⟨hmember, hdistinct⟩ := List.nodup_cons.1 h.distinct
  refine ⟨fun other hother ↦ h.known other (List.mem_cons_of_mem member hother), fun other hother ↦ ?_, hdistinct,
    fun other hother ↦ h.taken other (List.mem_cons_of_mem member hother),
    fun other hother ↦ h.apart other (List.mem_cons_of_mem member hother)⟩
  have hne : other.key ≠ member.key := fun hsame ↦ hmember (hsame ▸ List.mem_map_of_mem hother)
  rw [h.apart member List.mem_cons_self draft other.key hne]
  exact h.fresh other (List.mem_cons_of_mem member hother)

/-- Members may be left out. -/
theorem filter (h : shape.Awaits draft members) (keep : Member δ → Bool) :
    shape.Awaits draft (members.filter keep) where
  known member hmember := h.known member (List.mem_of_mem_filter hmember)
  fresh member hmember := h.fresh member (List.mem_of_mem_filter hmember)
  distinct := h.distinct.sublist (List.filter_sublist.map Member.key)
  taken member hmember := h.taken member (List.mem_of_mem_filter hmember)
  apart member hmember := h.apart member (List.mem_of_mem_filter hmember)

end Shape.Awaits

/-! ## The entries of an object -/

theorem parse_of_ok {read : Reader α} {text : Bytes} {value : α} (h : read text = (.ok value, [])) :
    read.parse text = .ok value := by
  unfold Reader.parse
  simp only
  rw [bind_of_ok h]
  rfl

theorem parse_of_error {read : Reader α} {text : Bytes} {fault : Fault} (h : read text = (.error fault, rest)) :
    read.parse text = .error (fault.within text) := by
  unfold Reader.parse
  simp only
  rw [bind_of_error h]

theorem key?_end (isFirst : Bool) (rest : Bytes) :
    key? isFirst (closeObject :: rest) = (.ok none, closeObject :: rest) := rfl

/-- The name of a field is read back. -/
theorem takeKey_written (key : String) (rest : Bytes) :
    key?.takeKey quote (quotedText key ++ rest) = (.ok (some key), rest) := by
  have hwritten : quotedText key ++ rest = quote :: (key.toUTF8.toList.flatMap escapeByte ++ quote :: rest) := by
    simp [quotedText]
  rw [hwritten, key?.takeKey, if_pos rfl, bind_of_ok (advance_cons _ _), bind_of_ok (readText_written key rest)]
  rfl

theorem key?_first (key : String) (rest : Bytes) :
    key? true (quotedText key ++ rest) = (.ok (some key), rest) := by
  have hquote : quote ≠ closeObject := by decide
  have htaken := takeKey_written key rest
  rw [quotedText, List.append_assoc, List.cons_append] at htaken ⊢
  rw [key?, bind_of_ok (solid?_cons (by decide) _)]
  simp only [if_neg hquote, if_true]
  exact htaken

theorem key?_next (key : String) (rest : Bytes) :
    key? false (comma :: (quotedText key ++ rest)) = (.ok (some key), rest) := by
  have hquote : quote ≠ closeObject := by decide
  have hcomma : comma ≠ closeObject := by decide
  have htaken := takeKey_written key rest
  rw [quotedText, List.append_assoc, List.cons_append] at htaken ⊢
  rw [key?, bind_of_ok (solid?_cons (by decide) _)]
  simp only [if_neg hcomma, Bool.false_eq_true, if_false, if_true]
  rw [bind_of_ok (advance_cons _ _), bind_of_ok (solid?_cons (by decide) _)]
  simp only [if_neg hquote]
  exact htaken

theorem takeColon_cons (rest : Bytes) : takeColon (colon :: rest) = (.ok (), rest) := rfl

namespace Shape

variable {shape : Shape δ α} {draft : δ} {member : Member δ} {members : List (Member δ)}

def written (member : Member δ) : Bytes := quotedText member.key ++ colon :: member.written

/-- A member is taken into the draft behind its key. -/
theorem takeEntries_member (h : shape.Awaits draft (member :: members)) {isFirst : Bool} {text : Bytes}
    (hkey : key? isFirst text = (.ok (some member.key), colon :: (member.written ++ rest))) (hrest : Delimited rest)
    (limit : Nat) :
    shape.takeEntries (limit + 1) isFirst draft text = shape.takeEntries limit false (member.put draft) rest := by
  rw [takeEntries, bind_of_ok hkey]
  simp only [if_pos (h.known member List.mem_cons_self), h.fresh member List.mem_cons_self, Bool.false_eq_true,
    if_false]
  rw [bind_of_ok (takeColon_cons _), bind_of_ok ((h.taken member List.mem_cons_self draft).read rest hrest)]

/-- Members behind the first one are taken in their order. -/
theorem takeEntries_written (h : shape.Awaits draft members) {limit : Nat} (hlimit : members.length < limit)
    (rest : Bytes) :
    shape.takeEntries limit false draft ((members.map written).flatMap (comma :: ·) ++ closeObject :: rest) =
      (.ok (Member.putAll members draft), closeObject :: rest) := by
  induction members generalizing limit draft with
  | nil =>
    obtain ⟨limit, rfl⟩ := Nat.exists_eq_add_one.2 hlimit
    rw [takeEntries, List.map_nil, List.flatMap_nil, List.nil_append, bind_of_ok (key?_end false rest)]
    rfl
  | cons member members ih =>
    obtain ⟨limit, rfl⟩ := Nat.exists_eq_add_one.2 (Nat.lt_of_le_of_lt (Nat.zero_le _) hlimit)
    have hrest := delimited_flatMap (members.map written) (.closeObject rest)
    rw [List.map_cons, List.flatMap_cons, List.append_assoc, List.cons_append, written, List.append_assoc,
      List.cons_append, takeEntries_member h (key?_next member.key _) hrest]
    exact ih h.next (Nat.lt_of_succ_lt_succ hlimit)

/-- All the members of an object are taken into the draft. -/
theorem takeEntries_object (h : shape.Awaits draft members) {limit : Nat} (hlimit : members.length < limit)
    (rest : Bytes) :
    shape.takeEntries limit true draft (separated (members.map written) ++ closeObject :: rest) =
      (.ok (Member.putAll members draft), closeObject :: rest) := by
  obtain ⟨limit, rfl⟩ := Nat.exists_eq_add_one.2 (Nat.lt_of_le_of_lt (Nat.zero_le _) hlimit)
  cases members with
  | nil =>
    rw [takeEntries, List.map_nil, separated, List.nil_append, bind_of_ok (key?_end true rest)]
    rfl
  | cons member members =>
    have hrest := delimited_flatMap (members.map written) (.closeObject rest)
    rw [List.map_cons, separated_cons, List.append_assoc, written, List.append_assoc, List.cons_append,
      takeEntries_member h (key?_first member.key _) hrest]
    exact takeEntries_written h.next (Nat.lt_of_succ_lt_succ hlimit) rest

theorem object_eq (members : List (Member δ)) :
    Member.object members = openObject :: (separated (members.map written) ++ [closeObject]) := by
  rw [Member.object, writtenObject, List.map_map]
  rfl

/-- The record of what is in an object whose opening has been taken. -/
def readEntries (shape : Shape δ α) : Reader α := do
  let draft ← fun text ↦ shape.takeEntries (text.length + 1) true shape.blank text
  shape.complete .missingField draft

theorem read_openObject (shape : Shape δ α) (text : Bytes) :
    shape.read (openObject :: text) = placed (fun _ ↦ closedBy endObject shape.readEntries text) text := rfl

/-- A written object is read as the draft with all its members taken. -/
theorem readEntries_written (h : shape.Awaits shape.blank members) :
    shape.readEntries (separated (members.map written) ++ [closeObject]) =
      shape.complete .missingField (Member.putAll members shape.blank) [closeObject] := by
  have hlimit : members.length < (separated (members.map written) ++ [closeObject]).length + 1 := by
    have hmembers := length_le_separated (members.map written)
    rw [List.length_map] at hmembers
    rw [List.length_append, List.length_singleton]
    omega
  have htaken := takeEntries_object h hlimit []
  rw [readEntries]
  exact bind_of_ok htaken

/-- Reading an object gives the record of the draft that its members make, if they make one. -/
theorem parse_object_iff (h : shape.Awaits shape.blank members) {record : α} :
    shape.read.parse (Member.object members) = .ok record ↔
      shape.finish (Member.putAll members shape.blank) = .ok record := by
  have hentries := readEntries_written h
  rw [complete] at hentries
  cases hfinish : shape.finish (Member.putAll members shape.blank) with
  | ok made =>
    rw [hfinish] at hentries
    have hread : shape.read (Member.object members) = (.ok made, []) := by
      rw [object_eq, read_openObject]
      exact placed_of_ok (closedBy_of_ok hentries rfl)
    rw [parse_of_ok hread, Except.ok.injEq, Except.ok.injEq]
  | error field =>
    rw [hfinish] at hentries
    have hread : shape.read (Member.object members) = (.error ⟨.missingField field, some []⟩, []) := by
      rw [object_eq, read_openObject, placed, closedBy, hentries]
      rfl
    rw [parse_of_error hread]
    exact ⟨nofun, nofun⟩

end Shape

end FleetAgent.Json

namespace FleetAgent.Control

open Json (Bytes Member ReadsBack Shape)

/-! ## The messages -/

namespace Registration

variable (message : Registration)

/-- All fields of a registration as they are written. -/
def members : List (Member Draft) :=
  [⟨"registration_id", Json.digitsOf message.id.toNat, fun draft ↦ { draft with id := some message.id }⟩,
   ⟨"system_id", Json.quotedText message.systemId, fun draft ↦ { draft with systemId := some message.systemId }⟩,
   ⟨"cluster_id", Json.quotedText message.clusterId,
     fun draft ↦ { draft with clusterId := some message.clusterId }⟩,
   ⟨"agent_version", Json.quotedText message.agentVersion,
     fun draft ↦ { draft with agentVersion := some message.agentVersion }⟩,
   ⟨"task_queues", Json.writtenList (message.queues.map Json.quotedText),
     fun draft ↦ { draft with queues := some message.queues }⟩]

/-- The field is left out. -/
def leavesOut (field : String) : Bool := field == "cluster_id" && message.clusterId.isEmpty

theorem toBytes_eq :
    message.toBytes = Member.object (message.members.filter fun member ↦ !message.leavesOut member.key) := by
  cases hempty : message.clusterId.isEmpty <;> simp [toBytes, Member.object, members, leavesOut, hempty, Member.entry]

theorem awaits : shape.Awaits shape.blank message.members where
  known := by simp [members, shape]
  fresh := by simp [members, shape, Draft.has]
  distinct := by simp [members]
  taken := by
    simp only [members, List.forall_mem_cons, List.not_mem_nil, false_imp_iff, implies_true, and_true]
    refine ⟨fun draft ↦ ?_, fun draft ↦ ?_, fun draft ↦ ?_, fun draft ↦ ?_, fun draft ↦ ?_⟩
    · exact (Json.natural_readsBack message.id).bind_pure fun id ↦ { draft with id := some id }
    · exact (Json.text_readsBack message.systemId).bind_pure fun systemId ↦ { draft with systemId := some systemId }
    · exact (Json.text_readsBack message.clusterId).bind_pure fun clusterId ↦ { draft with clusterId := some clusterId }
    · exact (Json.text_readsBack message.agentVersion).bind_pure
        fun version ↦ { draft with agentVersion := some version }
    · refine (Json.list_readsBack ?_).bind_pure fun queues ↦ { draft with queues := some queues }
      exact List.forall₂_map_left_iff.2 (List.forall₂_same.2 fun queue _ ↦ Json.text_readsBack queue)
  apart := by
    simp only [members, List.forall_mem_cons, List.not_mem_nil, false_imp_iff, implies_true, and_true]
    refine ⟨?_, ?_, ?_, ?_, ?_⟩ <;> intro draft key hkey <;> simp only [shape, Draft.has] <;> split <;> simp_all

/-- A draft makes a registration that has what was taken, and no cluster where none was. -/
theorem Draft.finish_eq_ok_iff {draft : Draft} {read : Registration} :
    draft.finish = .ok read ↔ draft.id = some read.id ∧ draft.systemId = some read.systemId ∧
      draft.clusterId.getD "" = read.clusterId ∧ draft.agentVersion = some read.agentVersion ∧
      draft.queues = some read.queues := by
  obtain ⟨id, systemId, clusterId, agentVersion, queues⟩ := draft
  obtain ⟨readId, readSystem, readCluster, readVersion, readQueues⟩ := read
  cases id <;> cases systemId <;> cases agentVersion <;> cases queues <;>
    simp [finish, required, bind, Except.bind, pure, Except.pure]

theorem ofBytes_filter_iff (keep : Member Draft → Bool) {read : Registration} :
    ofBytes (Member.object (message.members.filter keep)) = .ok read ↔
      (Member.putAll (message.members.filter keep) {}).finish = .ok read :=
  Shape.parse_object_iff (message.awaits.filter keep)

theorem ofBytes_toBytes : ofBytes message.toBytes = .ok message := by
  rw [toBytes_eq, ofBytes_filter_iff, Draft.finish_eq_ok_iff]
  by_cases hempty : message.clusterId = "" <;> simp [members, leavesOut, Member.putAll, hempty]

theorem leavesOut_iff {field : String} (hfield : field ∈ shape.fields) :
    message.leavesOut field ↔ ofBytes (Member.object (message.members.filter (·.key ≠ field))) = .ok message := by
  rw [ofBytes_filter_iff, Draft.finish_eq_ok_iff]
  simp only [shape, List.mem_cons, List.not_mem_nil, or_false] at hfield
  rcases hfield with rfl | rfl | rfl | rfl | rfl <;> simp [members, leavesOut, Member.putAll, eq_comm (a := "")]

end Registration

namespace Ack

variable (message : Ack)

/-- All fields of an acknowledgement as they are written, a missing reason as nothing. -/
def members : List (Member Draft) :=
  [⟨"registration_id", Json.digitsOf message.id.toNat, fun draft ↦ { draft with id := some message.id }⟩,
   ⟨"accepted", Json.writtenBool message.accepted, fun draft ↦ { draft with accepted := some message.accepted }⟩,
   ⟨"reason", match message.reason with
     | some reason => Json.quotedText reason
     | none => Json.wordNull.1 :: Json.wordNull.2, fun draft ↦ { draft with reason := some message.reason }⟩]

def leavesOut (field : String) : Bool := field == "reason" && message.reason.isNone

theorem toBytes_eq :
    message.toBytes = Member.object (message.members.filter fun member ↦ !message.leavesOut member.key) := by
  cases hreason : message.reason <;> simp [toBytes, Member.object, members, leavesOut, hreason, Member.entry]

theorem awaits : shape.Awaits shape.blank message.members where
  known := by simp [members, shape]
  fresh := by simp [members, shape, Draft.has]
  distinct := by simp [members]
  taken := by
    simp only [members, List.forall_mem_cons, List.not_mem_nil, false_imp_iff, implies_true, and_true]
    refine ⟨fun draft ↦ ?_, fun draft ↦ ?_, fun draft ↦ ?_⟩
    · exact (Json.natural_readsBack message.id).bind_pure fun id ↦ { draft with id := some id }
    · exact (Json.bool_readsBack message.accepted).bind_pure fun accepted ↦ { draft with accepted := some accepted }
    · refine ReadsBack.bind_pure ?_ fun reason ↦ { draft with reason := some reason }
      cases message.reason with
      | some reason =>
        exact (Json.text_readsBack reason).optional (by simp [Json.quotedText, Json.quote, Json.wordNull])
      | none => exact Json.nothing_readsBack Json.text
  apart := by
    simp only [members, List.forall_mem_cons, List.not_mem_nil, false_imp_iff, implies_true, and_true]
    refine ⟨?_, ?_, ?_⟩ <;> intro draft key hkey <;> simp only [shape, Draft.has] <;> split <;> simp_all

theorem Draft.finish_eq_ok_iff {draft : Draft} {read : Ack} :
    draft.finish = .ok read ↔ draft.id = some read.id ∧ draft.accepted = some read.accepted ∧
      draft.reason.getD none = read.reason := by
  obtain ⟨id, accepted, reason⟩ := draft
  obtain ⟨readId, readAccepted, readReason⟩ := read
  cases id <;> cases accepted <;> simp [finish, required, bind, Except.bind, pure, Except.pure]

theorem ofBytes_filter_iff (keep : Member Draft → Bool) {read : Ack} :
    ofBytes (Member.object (message.members.filter keep)) = .ok read ↔
      (Member.putAll (message.members.filter keep) {}).finish = .ok read :=
  Shape.parse_object_iff (message.awaits.filter keep)

theorem ofBytes_toBytes : ofBytes message.toBytes = .ok message := by
  rw [toBytes_eq, ofBytes_filter_iff, Draft.finish_eq_ok_iff]
  cases hreason : message.reason <;> simp [members, leavesOut, Member.putAll, hreason]

theorem leavesOut_iff {field : String} (hfield : field ∈ shape.fields) :
    message.leavesOut field ↔ ofBytes (Member.object (message.members.filter (·.key ≠ field))) = .ok message := by
  rw [ofBytes_filter_iff, Draft.finish_eq_ok_iff]
  simp only [shape, List.mem_cons, List.not_mem_nil, or_false] at hfield
  rcases hfield with rfl | rfl | rfl <;> simp [members, leavesOut, Member.putAll, eq_comm (a := none)]

end Ack

namespace Departure

variable (message : Departure)

def members : List (Member Draft) :=
  [⟨"system_id", Json.quotedText message.systemId, fun draft ↦ { draft with systemId := some message.systemId }⟩]

theorem toBytes_eq : message.toBytes = Member.object message.members := rfl

theorem awaits : shape.Awaits shape.blank message.members where
  known := by simp [members, shape]
  fresh := by simp [members, shape, Draft.has]
  distinct := by simp [members]
  taken := by
    simp only [members, List.forall_mem_singleton]
    exact fun draft ↦ (Json.text_readsBack message.systemId).bind_pure fun systemId ↦
      ({ draft with systemId := some systemId } : Draft)
  apart := by
    simp only [members, List.forall_mem_singleton]
    intro draft key hkey
    simp only [shape, Draft.has]

theorem ofBytes_filter_iff (keep : Member Draft → Bool) {read : Departure} :
    ofBytes (Member.object (message.members.filter keep)) = .ok read ↔
      (Member.putAll (message.members.filter keep) {}).systemId = some read.systemId := by
  refine (Shape.parse_object_iff (message.awaits.filter keep)).trans ?_
  change (required "system_id" (Member.putAll (message.members.filter keep) {}).systemId).map mk = _ ↔ _
  obtain ⟨readSystem⟩ := read
  cases (Member.putAll (message.members.filter keep) {}).systemId <;> simp [required, Except.map]

end Departure

/-- Every message is read back from its text as it was. A registration leaves out its cluster, and an
acknowledgement its reason, just when the message would be read back without that field, and no message
leaves out any other field. -/
theorem messages_survive :
    (∀ message : Registration, Registration.ofBytes message.toBytes = .ok message ∧
      message.toBytes = Member.object (message.members.filter fun member ↦ !message.leavesOut member.key) ∧
      ∀ field ∈ Registration.shape.fields, message.leavesOut field ↔
        Registration.ofBytes (Member.object (message.members.filter (·.key ≠ field))) = .ok message) ∧
    (∀ message : Ack, Ack.ofBytes message.toBytes = .ok message ∧
      message.toBytes = Member.object (message.members.filter fun member ↦ !message.leavesOut member.key) ∧
      ∀ field ∈ Ack.shape.fields, message.leavesOut field ↔
        Ack.ofBytes (Member.object (message.members.filter (·.key ≠ field))) = .ok message) ∧
    ∀ message : Departure, Departure.ofBytes message.toBytes = .ok message ∧
      message.toBytes = Member.object message.members ∧
      ∀ field ∈ Departure.shape.fields,
        Departure.ofBytes (Member.object (message.members.filter (·.key ≠ field))) ≠ .ok message := by
  refine ⟨fun message ↦ ⟨message.ofBytes_toBytes, message.toBytes_eq, fun field ↦ message.leavesOut_iff⟩,
    fun message ↦ ⟨message.ofBytes_toBytes, message.toBytes_eq, fun field ↦ message.leavesOut_iff⟩,
    fun message ↦ ⟨?_, message.toBytes_eq, fun field hfield ↦ ?_⟩⟩
  · rw [message.toBytes_eq, ← List.filter_true message.members]
    exact (message.ofBytes_filter_iff _).2 rfl
  · obtain rfl := List.mem_singleton.1 hfield
    rw [ne_eq, message.ofBytes_filter_iff]
    simp [Departure.members, Member.putAll]

end FleetAgent.Control
