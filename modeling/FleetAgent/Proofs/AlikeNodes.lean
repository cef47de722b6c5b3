import FleetAgent.Proofs.SheetReading

/-!
# Nodes that read alike

Where a node stands in its text shows in what is reported about it and in nothing else. So nodes that differ
only in their places read alike: what can be read from the one can be read from the other, in whatever
document and on whatever way to it. Aliases are the exception, since each document has its own, and nodes
with an alias in them are alike to none.
-/

namespace FleetAgent

namespace Yaml.Node

mutual

/-- The nodes differ in nothing but their places, and there is no alias in them. -/
inductive Alike : Node → Node → Prop where
  | scalar (mark mark' : Mark) (tag : Option (List Char)) (style : Style) (text : List Char) :
    Alike (.scalar mark tag style text) (.scalar mark' tag style text)
  | sequence (mark mark' : Mark) (tag : Option (List Char)) {items items' : List Node}
      (hitems : AllAlike items items') :
    Alike (.sequence mark tag items) (.sequence mark' tag items')
  | mapping (mark mark' : Mark) (tag : Option (List Char)) {entries entries' : List (Node × Node)}
      (hentries : PairsAlike entries entries') :
    Alike (.mapping mark tag entries) (.mapping mark' tag entries')

inductive AllAlike : List Node → List Node → Prop where
  | nil : AllAlike [] []
  | cons {node node' : Node} {rest rest' : List Node} (hfirst : Alike node node') (hrest : AllAlike rest rest') :
    AllAlike (node :: rest) (node' :: rest')

inductive PairsAlike : List (Node × Node) → List (Node × Node) → Prop where
  | nil : PairsAlike [] []
  | cons {key key' value value' : Node} {rest rest' : List (Node × Node)} (hkey : Alike key key')
      (hvalue : Alike value value') (hrest : PairsAlike rest rest') :
    PairsAlike ((key, value) :: rest) ((key', value') :: rest')

end

mutual

theorem Alike.isWhole : ∀ {node node' : Node}, Alike node node' → node'.isWhole = true
  | _, _, .scalar .. => rfl
  | _, _, .sequence _ _ _ hitems => hitems.areWhole
  | _, _, .mapping _ _ _ hentries => hentries.arePairsWhole

theorem AllAlike.areWhole : ∀ {items items' : List Node}, AllAlike items items' → Node.areWhole items' = true
  | _, _, .nil => rfl
  | _, _, .cons hfirst hrest => by
    rw [Node.areWhole, hfirst.isWhole, hrest.areWhole, Bool.and_self]

theorem PairsAlike.arePairsWhole : ∀ {entries entries' : List (Node × Node)}, PairsAlike entries entries' →
    Node.arePairsWhole entries' = true
  | _, _, .nil => rfl
  | _, _, .cons hkey hvalue hrest => by
    rw [Node.arePairsWhole, hkey.isWhole, hvalue.isWhole, hrest.arePairsWhole, Bool.and_self, Bool.and_self]

end

end Yaml.Node

namespace Settings

open Yaml (Node Meaning)

variable {count after : Nat}

/-- Two readings in a row go well if each does. -/
theorem bind_eq_ok {act : ReadM α} {next : α → ReadM β} {result : β}
    (h : (act >>= next) count = .ok (result, after)) :
    ∃ value middle, act count = .ok (value, middle) ∧ next value middle = .ok (result, after) := by
  change (act count >>= fun read ↦ next read.1 read.2) = _ at h
  cases hact : act count with
  | error fault =>
    rw [hact] at h
    cases h
  | ok read =>
    rw [hact] at h
    exact ⟨read.1, read.2, rfl, h⟩

namespace Field

variable {field other : Field}

/-- Telling the place changes nothing about what is read with success. -/
theorem placed_eq_ok {act : ReadM α} {result : α × Nat} (h : field.placed act count = .ok result) :
    act count = .ok result := by
  unfold placed at h
  split at h
  · cases h
  · exact h

theorem mismatch_ne_ok (node : Node) (expected : String) (count : Nat) (result : α × Nat) :
    mismatch node expected count ≠ .ok result := by
  intro h
  cases node with
  | scalar mark tag style text =>
    simp only [mismatch] at h
    cases hvalue : scalarValue tag style text <;> rw [hvalue] at h <;> cases h
  | _ => cases h

/-- Nodes that are alike are no aliases, so both are read as they are. -/
theorem follow_of_alike (h : field.node.Alike other.node) :
    field.follow = pure field ∧ other.follow = pure other := by
  unfold follow
  cases hnode : field.node <;> cases hother : other.node <;> rw [hnode, hother] at h <;>
    first | exact ⟨rfl, rfl⟩ | cases h

/-- What can be read from a node can be read from every node in that relation to it, in whatever document
and with however many aliases followed before. -/
def Carries (R : Node → Node → Prop) (read : Field → ReadM α) : Prop :=
  ∀ field other : Field, R field.node other.node → field.depth = other.depth →
    ∀ ⦃value : α⦄ ⦃count after : Nat⦄, read field count = .ok (value, after) → read other = pure value

/-- A reading that begins by following aliases, of which alike nodes have none. -/
theorem Carries.of_follow {read look : Field → ReadM α} (hread : ∀ field, read field = field.follow >>= look)
    (hlook : ∀ field other : Field, field.node.Alike other.node → field.depth = other.depth →
      ∀ ⦃value : α⦄ ⦃count after : Nat⦄, look field count = .ok (value, after) → look other = pure value) :
    Carries Node.Alike read := by
  intro field other halike hdepth value count after h
  obtain ⟨hfollow, hfollow'⟩ := follow_of_alike halike
  rw [hread, hfollow, pure_bind] at h
  rw [hread, hfollow', pure_bind]
  exact hlook field other halike hdepth h

/-- A reading that then looks at the node alone. -/
theorem Carries.of_look {read look : Field → ReadM α}
    (hread : ∀ field, read field = field.follow >>= fun field ↦ field.placed (look field))
    (hlook : ∀ ⦃field other : Field⦄, field.node.Alike other.node → ∀ ⦃value : α⦄ ⦃count after : Nat⦄,
      look field count = .ok (value, after) → look other = pure value) : Carries Node.Alike read := by
  refine .of_follow hread fun field other halike _ value count after h ↦ ?_
  rw [hlook halike (placed_eq_ok h), placed_pure]

/-! ## Scalars -/

theorem carries_text (expected : String) : Carries Node.Alike fun field ↦ field.text expected := by
  refine .of_look (fun _ ↦ rfl) fun field other halike value count after h ↦ ?_
  generalize field.node = node at halike h
  generalize other.node = node' at halike
  cases halike with
  | scalar =>
    cases h
    rfl
  | _ => exact absurd h (mismatch_ne_ok _ _ _ _)

theorem carries_bool : Carries Node.Alike bool := by
  refine .of_look (fun _ ↦ rfl) fun field other halike value count after h ↦ ?_
  generalize field.node = node at halike h
  generalize other.node = node' at halike
  cases halike with
  | scalar mark mark' tag style text =>
    dsimp only at h ⊢
    split at h
    · next hstands =>
      rw [if_pos hstands]
      split at h
      · next hmeant =>
        rw [hmeant] at h
        cases h
        rfl
      · exact absurd h (mismatch_ne_ok _ _ _ _)
    · exact absurd h (mismatch_ne_ok _ _ _ _)
  | _ => exact absurd h (mismatch_ne_ok _ _ _ _)

theorem carries_natural (bound : Nat) (kind : String) : Carries Node.Alike fun field ↦ field.natural bound kind := by
  refine .of_look (fun _ ↦ rfl) fun field other halike value count after h ↦ ?_
  generalize field.node = node at halike h
  generalize other.node = node' at halike
  cases halike with
  | scalar mark mark' tag style text =>
    dsimp only at h ⊢
    split at h
    · next hstands =>
      rw [if_pos hstands]
      split at h
      · next given hmeant =>
        rw [hmeant] at h
        dsimp only at h
        by_cases hbound : given < bound
        · rw [if_pos hbound] at h ⊢
          cases h
          rfl
        · rw [if_neg hbound] at h
          split at h
          · obtain ⟨_, _, hreject, -⟩ := bind_eq_ok h
            cases hreject
          · exact absurd h (mismatch_ne_ok _ _ _ _)
      · exact absurd h (mismatch_ne_ok _ _ _ _)
    · exact absurd h (mismatch_ne_ok _ _ _ _)
  | _ => exact absurd h (mismatch_ne_ok _ _ _ _)

/-- What is made of a reading is carried along. -/
theorem Carries.map {R : Node → Node → Prop} {read : Field → ReadM α} (h : Carries R read) (f : α → β) :
    Carries R fun field ↦ read field >>= fun value ↦ pure (f value) := by
  intro field other halike hdepth value count after hread
  obtain ⟨given, middle, hgiven, hvalue⟩ := bind_eq_ok hread
  cases hvalue
  dsimp only
  rw [h field other halike hdepth hgiven, pure_bind]

theorem carries_word16 : Carries Node.Alike word16 := (carries_natural UInt16.size "u16").map Nat.toUInt16

theorem carries_word64 : Carries Node.Alike word64 := (carries_natural UInt64.size "u64").map Nat.toUInt64

/-- A value that may be missing is read alike when the value itself is. -/
theorem Carries.optional {read : Field → ReadM α} (h : Carries Node.Alike read) :
    Carries Node.Alike fun field ↦ field.optional read := by
  refine .of_follow (fun _ ↦ rfl) fun field other halike hdepth value count after hread ↦ ?_
  have hgiven := h.map some field other halike hdepth
  generalize hnode : field.node = node at halike hread
  generalize hnode' : other.node = node' at halike
  cases halike with
  | scalar mark mark' tag style text =>
    cases style with
    | plain =>
      cases tag with
      | none =>
        dsimp only at hread ⊢
        split at hread
        · next hblank =>
          rw [if_pos hblank]
          cases hread
          rfl
        · next hshown =>
          rw [if_neg hshown]
          exact hgiven hread
      | some chars =>
        dsimp only at hread ⊢
        split at hread
        · next hnull =>
          rw [if_pos hnull]
          split at hread
          · next hblank =>
            rw [if_pos hblank]
            cases hread
            rfl
          · obtain ⟨_, _, hreject, -⟩ := bind_eq_ok hread
            cases hreject
        · next hother =>
          rw [if_neg hother]
          exact hgiven hread
    | _ => exact hgiven hread
  | sequence => exact hgiven hread
  | mapping => exact hgiven hread

/-! ## Values of any kind -/

/-- The items of a list, if one at a time carries along. -/
theorem contents_carry (field other : Field) {depth : Nat} (hcontent : Carries Node.Alike (content depth))
    {items items' : List Node} (hitems : Node.AllAlike items items') {n count after : Nat} {read : List Content}
    (h : ((items.zipIdx n).mapM fun item ↦ content depth (field.child (.index item.2) depth item.1) : ReadM _)
      count = .ok (read, after)) :
    (items'.zipIdx n).mapM (fun item ↦ content depth (other.child (.index item.2) depth item.1)) = pure read := by
  induction items generalizing items' n count read with
  | nil =>
    cases hitems
    cases h
    rfl
  | cons item rest ih =>
    cases hitems with
    | @cons _ item' _ _ hfirst hrest =>
      rw [List.zipIdx_cons, List.mapM_cons] at h ⊢
      obtain ⟨given, middle, hgiven, h⟩ := bind_eq_ok h
      obtain ⟨others, last, hothers, h⟩ := bind_eq_ok h
      cases h
      have hread :=
        hcontent (field.child (.index n) depth item) (other.child (.index n) depth item') hfirst rfl hgiven
      rw [hread, pure_bind, ih hrest hothers, pure_bind]

/-- The keys and values of a mapping, which are read and dropped. -/
theorem entries_carry {field other : Field} {depth : Nat} (hcontent : Carries Node.Alike (content depth))
    (hdepth : field.depth = other.depth) {entries entries' : List (Node × Node)}
    (hentries : Node.PairsAlike entries entries') {count after : Nat}
    (h : (forIn entries PUnit.unit fun entry _ ↦ do
      let _ ← content depth { field with node := entry.1 }
      let _ ← content depth (field.child (stepOf entry.1) depth entry.2)
      pure (.yield PUnit.unit) : ReadM _) count = .ok (.unit, after)) :
    (forIn entries' PUnit.unit fun entry _ ↦ do
      let _ ← content depth { other with node := entry.1 }
      let _ ← content depth (other.child (stepOf entry.1) depth entry.2)
      pure (.yield PUnit.unit) : ReadM _) = pure PUnit.unit := by
  induction entries generalizing entries' count with
  | nil =>
    cases hentries
    rfl
  | cons entry rest ih =>
    cases hentries with
    | @cons key key' value value' _ _ hkey hvalue hrest =>
      rw [List.forIn_cons] at h ⊢
      obtain ⟨step, middle, hstep, h⟩ := bind_eq_ok h
      obtain ⟨_, _, hgiven, hstep⟩ := bind_eq_ok hstep
      obtain ⟨_, _, hheld, hstep⟩ := bind_eq_ok hstep
      cases hstep
      have hkeyed := hcontent { field with node := key } { other with node := key' } hkey hdepth hgiven
      have hread :=
        hcontent (field.child (stepOf key) depth value) (other.child (stepOf key') depth value') hvalue rfl hheld
      simp only [hkeyed, hread, pure_bind]
      exact ih hrest h

/-- An application's own tag is refused. -/
theorem of_unrefused {tag : Option (List Char)} {result : Unit × Nat}
    (h : (if isLocal tag then throw .unreadable else pure () : ReadM Unit) count = .ok result) :
    isLocal tag = false := by
  cases hlocal : isLocal tag with
  | true =>
    rw [hlocal] at h
    cases h
  | false => rfl

theorem scalar_carries {mark mark' : Yaml.Mark} {tag : Option (List Char)} {style : Yaml.Style} {text : List Char}
    (hnode : field.node = .scalar mark tag style text) (hnode' : other.node = .scalar mark' tag style text)
    (depth : Nat) {value : Content} {after : Nat} (h : content depth field count = .ok (value, after)) :
    content depth other = pure value := by
  have halike : field.node.Alike other.node := by
    rw [hnode, hnode']
    exact .scalar ..
  obtain ⟨hfollow, hfollow'⟩ := follow_of_alike halike
  rw [content, hfollow, pure_bind, hnode] at h
  rw [content, hfollow', pure_bind, hnode']
  obtain ⟨_, _, htag, h⟩ := bind_eq_ok h
  dsimp only
  rw [if_neg (by simp [of_unrefused htag]), pure_bind]
  replace h := placed_eq_ok h
  cases hvalue : scalarValue tag style text with
  | error reason =>
    rw [hvalue] at h
    cases h
  | ok found =>
    rw [hvalue] at h
    cases found with
    | int n =>
      dsimp only at h ⊢
      split at h
      · next hnarrow =>
        rw [if_pos hnarrow]
        cases h
        rfl
      · cases h
    | _ =>
      cases h
      rfl

-- What a collection holds is read one level further down, so this goes by the depth that is left.
/-- A value of any kind is read alike at any depth. -/
theorem carries_content : ∀ depth, Carries Node.Alike (content depth)
  | depth, field, other, halike, hdepth, value, count, after, h => by
    have hscalar {mark mark' tag style text} :=
      @scalar_carries count field other mark mark' tag style text
    obtain ⟨hfollow, hfollow'⟩ := follow_of_alike halike
    generalize hnode : field.node = node at halike
    generalize hnode' : other.node = node' at halike
    cases halike with
    | scalar => exact hscalar hnode hnode' depth h
    | sequence mark mark' tag hitems =>
      rw [content, hfollow, pure_bind, hnode] at h
      rw [content, hfollow', pure_bind, hnode']
      obtain ⟨_, _, htag, h⟩ := bind_eq_ok h
      dsimp only
      rw [if_neg (by simp [of_unrefused htag]), pure_bind]
      cases depth with
      | zero => cases h
      | succ depth =>
        obtain ⟨read, _, hread, h⟩ := bind_eq_ok h
        cases h
        have hitems' := contents_carry field other (carries_content depth) hitems hread
        dsimp only
        rw [hitems', pure_bind]
    | mapping mark mark' tag hentries =>
      rw [content, hfollow, pure_bind, hnode] at h
      rw [content, hfollow', pure_bind, hnode']
      obtain ⟨_, _, htag, h⟩ := bind_eq_ok h
      dsimp only
      rw [if_neg (by simp [of_unrefused htag]), pure_bind]
      cases depth with
      | zero => cases h
      | succ depth =>
        obtain ⟨_, _, hread, h⟩ := bind_eq_ok h
        cases h
        have hentries' := entries_carry (carries_content depth) hdepth hentries hread
        dsimp only
        rw [hentries', pure_bind]

/-! ## One or many texts -/

/-- One text or a list of texts is read as content that comes to texts. -/
theorem oneOrMany_eq (field : Field) : field.oneOrMany = (field.optional fun field ↦ content field.depth field) >>=
    fun content? ↦ (content?.elim (some []) Content.texts?).elim (reject .neitherOneNorMany) pure := by
  unfold oneOrMany
  congr 1
  funext content?
  cases content? with
  | none => rfl
  | some content =>
    dsimp only [Option.elim_some]
    cases content.texts? <;> rfl

theorem carries_oneOrMany : Carries Node.Alike oneOrMany := by
  have hcontent : Carries Node.Alike fun field ↦ content field.depth field := by
    intro field other halike hdepth value count after h
    dsimp only at h ⊢
    rw [← hdepth]
    exact carries_content field.depth field other halike hdepth h
  intro field other halike hdepth value count after h
  rw [oneOrMany_eq] at h ⊢
  obtain ⟨content?, middle, hread, h⟩ := bind_eq_ok h
  have hread' := hcontent.optional field other halike hdepth hread
  dsimp only at hread'
  rw [hread', pure_bind]
  cases htexts : content?.elim (some []) Content.texts? with
  | none =>
    rw [htexts] at h
    cases h
  | some texts =>
    rw [htexts] at h
    cases h
    rfl

/-- The node is a scalar that stands for the text and for nothing else. -/
inductive IsText : Node → List Char → Prop where
  | scalar (mark : Yaml.Mark) {tag : Option (List Char)} {style : Yaml.Style} {text : List Char}
      (hcommon : isLocal tag = false) (hmeans : scalarValue tag style text = .ok (.text text)) :
    IsText (.scalar mark tag style text) text

theorem content_of_isText {text : List Char} (h : IsText field.node text) (depth : Nat) :
    content depth field = pure (.text (String.ofList text)) := by
  generalize hnode : field.node = node at h
  cases h with
  | scalar mark hcommon hmeans =>
    have hfollow : field.follow = pure field := by
      rw [follow, hnode]
    rw [content, hfollow, pure_bind, hnode]
    simp [hcommon, hmeans]

/-- A scalar that stands for nothing stands for no text. -/
theorem optional_of_isText {text : List Char} (h : IsText field.node text) (read : Field → ReadM α) :
    field.optional read = some <$> read field := by
  generalize hnode : field.node = node at h
  cases h with
  | @scalar mark tag style text hcommon hmeans =>
    have hfollow : field.follow = pure field := by
      rw [follow, hnode]
    rw [optional, hfollow, pure_bind, hnode, map_eq_pure_bind]
    cases style with
    | plain =>
      cases tag with
      | none =>
        have hplain : Meaning.ofPlain text = none := by
          cases hmeaning : Meaning.ofPlain text with
          | none => rfl
          | some meaning =>
            simp only [scalarValue, hmeaning] at hmeans
            cases meaning <;> cases hmeans
        simp [not_null_of_ofPlain hplain]
      | some chars =>
        have hshown : chars ≠ coreTag "null" := by
          rintro rfl
          rw [scalarValue, if_neg (by decide), if_neg (by decide), if_neg (by decide), if_pos rfl] at hmeans
          split at hmeans <;> cases hmeans
        simp [hshown]
    | _ => rfl

/-- One text is read as the list of it. -/
theorem oneOrMany_of_isText {text : List Char} (h : IsText field.node text) :
    field.oneOrMany = pure [String.ofList text] := by
  rw [oneOrMany_eq, optional_of_isText h, content_of_isText h]
  rfl

theorem oneOrMany_of_listed {mark : Yaml.Mark} {item : Node} {text : List Char} (hitem : IsText item text)
    (hnode : field.node = .sequence mark none [item]) (hdepth : field.depth ≠ 0) :
    field.oneOrMany = pure [String.ofList text] := by
  obtain ⟨depth, hdepth⟩ := Nat.exists_eq_succ_of_ne_zero hdepth
  have hfollow : field.follow = pure field := by
    rw [follow, hnode]
  have hread : content depth (field.child (.index 0) depth item) = pure (.text (String.ofList text)) :=
    content_of_isText hitem depth
  rw [oneOrMany_eq, optional, hfollow, pure_bind, hnode, hdepth, content, hfollow, pure_bind, hnode]
  simp [isLocal, hread, Content.texts?]

end Field

end Settings

end FleetAgent
