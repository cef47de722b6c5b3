import FleetAgent.Proofs.AlikeNodes
import Mathlib.Data.List.Nodup
import Mathlib.Data.List.Perm.Basic
import Mathlib.Data.List.ReduceOption

/-!
# Entries in any order

The entries of a mapping are read one after the other, each into what the ones before it have left. What a
known entry says is one clause of the record: it has the entry's key, and it is put into the record without
regard to what is there. Clauses of different keys do not get in each other's way, and a record in which a
known key occurs twice is rejected. So what is read depends on the known entries alone, and not on their
order.
-/

namespace FleetAgent.Settings

open Yaml (Node)

/-! ## Clauses -/

/-- What the entries of a record can say. -/
structure Clauses (δ α : Type) where
  key : δ → String
  put : δ → α → α
  /-- Clauses of different keys do not get in each other's way. -/
  apart : ∀ {first second : δ}, key first ≠ key second →
    ∀ value, put first (put second value) = put second (put first value)

namespace Clauses

variable {δ α : Type} (clauses : Clauses δ α)

def putAll (said : List δ) (value : α) : α := said.foldl (fun value clause ↦ clauses.put clause value) value

/-- Clauses with different keys may be put in any order. -/
theorem putAll_perm {said said' : List δ} (h : said.Perm said') (hdistinct : (said.map clauses.key).Nodup)
    (value : α) : clauses.putAll said value = clauses.putAll said' value := by
  refine h.foldl_eq' (fun first hfirst second hsecond value ↦ ?_) value
  by_cases hsame : clauses.key first = clauses.key second
  · rw [List.inj_on_of_nodup_map hdistinct hfirst hsecond hsame]
  · exact clauses.apart (Ne.symm hsame) value

end Clauses

/-! ## Entries -/

/-- The node is a key of that name. -/
inductive Names : Node → String → Prop where
  | scalar (mark : Yaml.Mark) (tag : Option (List Char)) (style : Yaml.Style) (text : List Char) :
    Names (.scalar mark tag style text) (String.ofList text)

theorem text_of_names {key : Node} {name : String} (h : Names key name) (field : Field) (expected : String) :
    Field.text { field with node := key } expected = pure name := by
  cases h
  rfl

/-- A key has one name. -/
theorem Names.unique {key : Node} {name other : String} (h : Names key name) (h' : Names key other) : name = other := by
  cases h
  cases h'
  rfl

theorem names_of_alike {key key' : Node} (halike : key.Alike key') {field : Field} {expected name : String}
    {count after : Nat} (h : Field.text { field with node := key } expected count = .ok (name, after)) :
    Names key name ∧ Names key' name := by
  have hfollow := (@Field.follow_of_alike { field with node := key } { field with node := key' } halike).1
  rw [Field.text, hfollow, pure_bind] at h
  replace h := Field.placed_eq_ok h
  cases halike with
  | scalar mark mark' tag style text =>
    cases h
    exact ⟨.scalar .., .scalar ..⟩
  | _ => exact absurd h (Field.mismatch_ne_ok _ _ _ _)

/-- The entry has a key that is not known; its value makes sense to its end. -/
structure Foreign (known : List String) (entry : Node × Node) : Prop where
  named : ∃ name, Names entry.1 name ∧ name ∉ known
  whole : entry.2.isWhole = true

/-- The entries have the same key, and the value of the second restates that of the first. -/
structure Restates (Restated : String → Node → Node → Prop) (entry entry' : Node × Node) : Prop where
  key : entry.1.Alike entry'.1
  value : ∀ name, Names entry.1 name → Restated name entry.2 entry'.2

/-- An entry is restated by a key of the same name and a value that restates its value. -/
theorem Restates.of_names {Restated : String → Node → Node → Prop} {key key' value value' : Node} {name : String}
    (hkey : key.Alike key') (hname : Names key name) (hvalue : Restated name value value') :
    Restates Restated (key, value) (key', value') :=
  ⟨hkey, fun _ hother ↦ hname.unique hother ▸ hvalue⟩

/-- The second mapping holds the entries of the first in any order, and any entries with keys that are not
known among them. -/
def Rearranged (known : List String) (Restated : String → Node → Node → Prop) (entries entries' : List (Node × Node)) :
    Prop :=
  ∃ moved extra, List.Forall₂ (Restates Restated) entries moved ∧ entries'.Perm (moved ++ extra) ∧
    ∀ entry ∈ extra, Foreign known entry

/-- The second node is a mapping that holds the entries of the first one rearranged. -/
inductive Resorted (known : List String) (Restated : String → Node → Node → Prop) : Node → Node → Prop where
  | mapping {mark mark' : Yaml.Mark} {tag tag' : Option (List Char)} {entries entries' : List (Node × Node)}
      (hrearranged : Rearranged known Restated entries entries') :
    Resorted known Restated (.mapping mark tag entries) (.mapping mark' tag' entries')

section

variable {δ α : Type} (clauses : Clauses δ α) (read : String → Field → α → ReadM α) (known : List String)
  (depth : Nat)

/-- Under the key of the clause the value says the clause, in whatever document. -/
def Means (value : Node) (clause : δ) : Prop :=
  ∀ field : Field, field.node = value → field.depth = depth →
    ∀ before, read (clauses.key clause) field before = pure (clauses.put clause before)

/-- One clause with that key has been put into the record, and the value says it. -/
def Puts (name : String) (value : Node) (before result : α) : Prop :=
  ∃ clause, clauses.key clause = name ∧ result = clauses.put clause before ∧ Means clauses read depth value clause

/-- What an entry says, if it is known. -/
inductive Says : Node × Node → Option δ → Prop where
  | foreign {entry : Node × Node} (hforeign : Foreign known entry) : Says entry none
  | clause {key value : Node} {clause : δ} (hkey : Names key (clauses.key clause))
      (hknown : clauses.key clause ∈ known) (hmeans : Means clauses read depth value clause) :
    Says (key, value) (some clause)

/-- Reading a known entry comes to one clause, and restating the entry does not change which. -/
structure ReadsClauses (Restated : String → Node → Node → Prop) : Prop where
  clause : ∀ {name : String} {value value' : Node}, name ∈ known → Restated name value value' →
    ∀ {field : Field}, field.node = value → field.depth = depth →
    ∀ {before result : α} {count after : Nat}, read name field before count = .ok (result, after) →
      Puts clauses read depth name value' before result
  whole : ∀ {name : String} {value value' : Node}, name ∉ known → Restated name value value' →
    value'.isWhole = true

end

section

variable {δ α γ : Type} {clauses : Clauses δ α} {read : String → Field → α → ReadM α} {known : List String}
  {depth : Nat} {Restated : String → Node → Node → Prop} {entries entries' : List (Node × Node)}

/-- An entry whose value is read and put into the record. -/
theorem puts_of_reading {get : Field → ReadM γ} (say : γ → δ) {name : String}
    (hkey : ∀ given, clauses.key (say given) = name)
    (hread : ∀ field before, read name field before = get field >>= fun given ↦ pure (clauses.put (say given) before))
    {field : Field} {value' : Node}
    (hget : ∀ {given count after}, get field count = .ok (given, after) →
      ∀ other : Field, other.node = value' → other.depth = depth → get other = pure given)
    {before result : α} {count after : Nat} (h : read name field before count = .ok (result, after)) :
    Puts clauses read depth name value' before result := by
  rw [hread] at h
  obtain ⟨given, _, hgiven, hresult⟩ := bind_eq_ok h
  cases hresult
  refine ⟨say given, hkey given, rfl, fun other hnode hdepth before ↦ ?_⟩
  rw [hkey, hread, hget hgiven other hnode hdepth, pure_bind]

theorem Field.Carries.puts {R : Node → Node → Prop} {get : Field → ReadM γ} (hcarries : Field.Carries R get)
    (say : γ → δ) {name : String} (hkey : ∀ given, clauses.key (say given) = name)
    (hread : ∀ field before, read name field before = get field >>= fun given ↦ pure (clauses.put (say given) before))
    {field : Field} {value' : Node} (hvalue : R field.node value') (hdepth : field.depth = depth)
    {before result : α} {count after : Nat} (h : read name field before count = .ok (result, after)) :
    Puts clauses read depth name value' before result :=
  puts_of_reading say hkey hread (fun hgiven other hnode hdepth' ↦
    hcarries field other (hnode ▸ hvalue) (hdepth.trans hdepth'.symm) hgiven) h

/-- What the entries say is put into the record. -/
theorem entriesInto_of_said {said : List (Option δ)} (h : List.Forall₂ (Says clauses read known depth) entries said)
    (hdistinct : (said.reduceOption.map clauses.key).Nodup) {seen : List String}
    (hunseen : (said.reduceOption.map clauses.key).Disjoint seen) (field : Field) (before : α) :
    field.entriesInto depth known read seen before entries = pure (clauses.putAll said.reduceOption before) := by
  induction h generalizing seen before with
  | nil => rfl
  | cons hsaid _ ih =>
    cases hsaid with
    | @foreign entry hforeign =>
      obtain ⟨⟨name, hname, hunknown⟩, hwhole⟩ := hforeign
      rw [List.reduceOption_cons_of_none] at hdistinct hunseen ⊢
      rw [Field.entriesInto, text_of_names hname, pure_bind, if_pos (by simpa using hunknown), Field.ignore,
        if_pos hwhole, pure_bind]
      exact ih hdistinct hunseen before
    | @clause key value clause hkey hknown hmeans =>
      rw [List.reduceOption_cons_of_some, List.map_cons] at hdistinct hunseen
      rw [List.nodup_cons] at hdistinct
      rw [List.disjoint_cons_left] at hunseen
      rw [Field.entriesInto, text_of_names hkey, pure_bind, if_neg (by simpa using hknown),
        if_neg (by simpa using hunseen.1), hmeans _ rfl rfl, pure_bind]
      have hdisjoint : (List.map clauses.key _).Disjoint (clauses.key clause :: seen) :=
        List.disjoint_cons_right.2 ⟨hdistinct.1, hunseen.2⟩
      exact ih hdistinct.2 hdisjoint _

/-- When the entries can be read, the entries that restate them say something, and it has been put into the
record. -/
theorem said_of_entriesInto (hreads : ReadsClauses clauses read known depth Restated) {moved : List (Node × Node)}
    (hmoved : List.Forall₂ (Restates Restated) entries moved) {field : Field} {seen : List String}
    {before result : α} {count after : Nat}
    (h : field.entriesInto depth known read seen before entries count = .ok (result, after)) :
    ∃ said : List (Option δ), List.Forall₂ (Says clauses read known depth) moved said ∧
      (said.reduceOption.map clauses.key).Nodup ∧ (said.reduceOption.map clauses.key).Disjoint seen ∧
      result = clauses.putAll said.reduceOption before := by
  induction hmoved generalizing seen before count with
  | nil =>
    cases h
    exact ⟨[], .nil, .nil, List.disjoint_nil_left _, rfl⟩
  | @cons entry entry' _ _ hentry _ ih =>
    obtain ⟨key, value⟩ := entry
    obtain ⟨key', value'⟩ := entry'
    rw [Field.entriesInto] at h
    obtain ⟨name, _, hnamed, h⟩ := bind_eq_ok h
    obtain ⟨hname, hname'⟩ := names_of_alike hentry.key hnamed
    have hvalue := hentry.value name hname
    by_cases hknown : name ∈ known
    · rw [if_neg (by simpa using hknown)] at h
      split at h
      · obtain ⟨_, _, hreject, -⟩ := bind_eq_ok h
        cases hreject
      · next hfresh =>
        obtain ⟨middle, _, hread, hrest⟩ := bind_eq_ok h
        obtain ⟨clause, rfl, rfl, hmeans⟩ := hreads.clause hknown hvalue rfl rfl hread
        obtain ⟨said, hsaid, hdistinct, hunseen, rfl⟩ := ih hrest
        rw [List.disjoint_cons_right] at hunseen
        refine ⟨some clause :: said, .cons (.clause hname' hknown hmeans) hsaid, ?_, ?_, rfl⟩
        · rw [List.reduceOption_cons_of_some, List.map_cons, List.nodup_cons]
          exact ⟨hunseen.1, hdistinct⟩
        · rw [List.reduceOption_cons_of_some, List.map_cons, List.disjoint_cons_left]
          exact ⟨by simpa using hfresh, hunseen.2⟩
    · rw [if_pos (by simpa using hknown)] at h
      obtain ⟨_, _, -, hrest⟩ := bind_eq_ok h
      obtain ⟨said, hsaid, hdistinct, hunseen, rfl⟩ := ih hrest
      have hforeign : Foreign known (key', value') := ⟨⟨name, hname', hknown⟩, hreads.whole hknown hvalue⟩
      exact ⟨none :: said, .cons (.foreign hforeign) hsaid, hdistinct, hunseen, rfl⟩

/-- Rearranged entries are read to the same record. -/
theorem entriesInto_rearranged (hreads : ReadsClauses clauses read known depth Restated)
    (hrearranged : Rearranged known Restated entries entries') {field : Field} {before result : α} {count after : Nat}
    (h : field.entriesInto depth known read [] before entries count = .ok (result, after)) (other : Field) :
    other.entriesInto depth known read [] before entries' = pure result := by
  obtain ⟨moved, extra, hmoved, hperm, hextra⟩ := hrearranged
  obtain ⟨said, hsaid, hdistinct, -, rfl⟩ := said_of_entriesInto hreads hmoved h
  have hsilent : List.Forall₂ (Says clauses read known depth) extra (extra.map fun _ ↦ none) := by
    rw [List.forall₂_map_right_iff, List.forall₂_same]
    exact fun entry hentry ↦ .foreign (hextra entry hentry)
  obtain ⟨said', hsaid', hperm'⟩ := List.perm_comp_forall₂ hperm (List.rel_append hsaid hsilent)
  have hreduced : said'.reduceOption.Perm said.reduceOption := by
    have hfiltered := hperm'.filterMap id
    rw [List.filterMap_append, List.filterMap_map] at hfiltered
    simpa [List.reduceOption] using hfiltered
  have hdistinct' := (hreduced.map clauses.key).nodup_iff.2 hdistinct
  rw [entriesInto_of_said hsaid' hdistinct' (List.disjoint_nil_right _), clauses.putAll_perm hreduced hdistinct']

/-- A mapping is read as every mapping with its entries rearranged. -/
theorem record_rearranged (hreads : ReadsClauses clauses read known depth Restated)
    (hrearranged : Rearranged known Restated entries entries') {field other : Field} {mark mark' : Yaml.Mark}
    {tag tag' : Option (List Char)} (hnode : field.node = .mapping mark tag entries)
    (hnode' : other.node = .mapping mark' tag' entries') (hdepth : field.depth = depth + 1)
    (hdepth' : other.depth = depth + 1) {kind : String} {blank result : α} {count after : Nat}
    (h : field.record kind known blank read count = .ok (result, after)) :
    other.record kind known blank read = pure result := by
  have hfollow : field.follow = pure field := by rw [Field.follow, hnode]
  have hfollow' : other.follow = pure other := by rw [Field.follow, hnode']
  rw [Field.record, hfollow, pure_bind, hnode, hdepth] at h
  rw [Field.record, hfollow', pure_bind, hnode', hdepth']
  dsimp only
  rw [entriesInto_rearranged hreads hrearranged (Field.placed_eq_ok h), Field.placed_pure]

theorem restates_of_pairsAlike (h : Node.PairsAlike entries entries') :
    List.Forall₂ (Restates fun _ ↦ Node.Alike) entries entries' := by
  induction entries generalizing entries' with
  | nil =>
    cases h
    exact .nil
  | cons entry rest ih =>
    cases h with
    | cons hkey hvalue hrest => exact .cons ⟨hkey, fun _ _ ↦ hvalue⟩ (ih hrest)

/-- A section whose entries are rearranged is read as the same section. -/
theorem carries_resorted (hreads : ∀ depth, ReadsClauses clauses read known depth Restated) (kind : String)
    (blank : α) : Field.Carries (Resorted known Restated) fun field ↦ field.record kind known blank read := by
  intro field other hresorted hdepth value count after h
  generalize hnode : field.node = node at hresorted
  generalize hnode' : other.node = node' at hresorted
  obtain @⟨mark, mark', tag, tag', entries, entries', hrearranged⟩ := hresorted
  cases hlimit : field.depth with
  | zero =>
    have hfollow : field.follow = pure field := by rw [Field.follow, hnode]
    dsimp only at h
    rw [Field.record, hfollow, pure_bind, hnode, hlimit] at h
    cases Field.placed_eq_ok h
  | succ depth =>
    exact record_rearranged (hreads depth) hrearranged hnode hnode' hlimit (hdepth.symm.trans hlimit) h

theorem carries_record (hreads : ∀ depth, ReadsClauses clauses read known depth fun _ ↦ Node.Alike) (kind : String)
    (blank : α) : Field.Carries Node.Alike fun field ↦ field.record kind known blank read := by
  intro field other halike hdepth value count after h
  have hsections := carries_resorted hreads kind blank field other
  obtain ⟨hfollow, hfollow'⟩ := Field.follow_of_alike halike
  generalize hnode : field.node = node at halike hsections
  generalize hnode' : other.node = node' at halike hsections
  cases halike with
  | mapping mark mark' tag hentries =>
    exact hsections ⟨_, [], restates_of_pairsAlike hentries, by simp, nofun⟩ hdepth h
  | scalar mark mark' tag style text =>
    dsimp only at h ⊢
    rw [Field.record, hfollow, pure_bind, hnode] at h
    rw [Field.record, hfollow', pure_bind, hnode']
    replace h := Field.placed_eq_ok h
    by_cases hblank : style = .plain ∧ text = []
    · obtain ⟨rfl, rfl⟩ := hblank
      cases h
      rfl
    · cases style with
      | plain =>
        cases text with
        | nil => exact absurd ⟨rfl, rfl⟩ hblank
        | cons => exact absurd h (Field.mismatch_ne_ok _ _ _ _)
      | _ => exact absurd h (Field.mismatch_ne_ok _ _ _ _)
  | sequence mark mark' tag hitems =>
    dsimp only at h
    rw [Field.record, hfollow, pure_bind, hnode] at h
    exact absurd (Field.placed_eq_ok h) (Field.mismatch_ne_ok _ _ _ _)

end

end FleetAgent.Settings
