import FleetAgent.Text.Strip
import FleetAgent.Yaml.Node

/-!
# Blank texts hold no mapping

Every collection of the notation begins with a sign, and no blank is one. So from a text of nothing but
blanks come no words other than those of its ends and scalars, since some of the blanks count as letters; and
a document of such words is a single scalar.
-/

namespace FleetAgent.Yaml

/-! ## Glyphs without signs -/

/-- The characters that a token other than a plain scalar begins with. -/
def signs : List Char :=
  ['%', '-', '.', '[', '{', ']', '}', ',', '?', ':', '*', '&', '!', '|', '>', '\'', '"']

theorem not_sign_of_isBlank {c : Char} (h : Text.isBlank c = true) : c ∉ signs := by
  intro hsign
  have hsigns : ∀ sign ∈ signs, Text.isBlank sign = false := by
    simp only [signs, List.forall_mem_cons, List.not_mem_nil, false_imp_iff, implies_true]
    decide
  rw [hsigns c hsign] at h
  cases h

def Unsigned (glyphs : List Glyph) : Prop := ∀ glyph ∈ glyphs, glyph.char ∉ signs

theorem Unsigned.cons {glyph : Glyph} {rest : List Glyph} (hglyph : glyph.char ∉ signs) (hrest : Unsigned rest) :
    Unsigned (glyph :: rest) :=
  List.forall_mem_cons.2 ⟨hglyph, hrest⟩

theorem Unsigned.of_suffix {glyphs rest : List Glyph} (h : Unsigned glyphs) (hrest : rest <:+ glyphs) :
    Unsigned rest :=
  fun glyph hglyph ↦ h glyph (hrest.subset hglyph)

theorem unsigned_end (mark : Mark) : Unsigned [⟨zero, mark⟩] :=
  .cons (show zero ∉ signs by decide) nofun

/-- A text without signs has none among its glyphs. -/
theorem unsigned_glyphsFrom {chars : List Char} (h : ∀ c ∈ chars, c ∉ signs) (mark : Mark) :
    Unsigned (glyphsFrom mark chars) := by
  have hbreak : '\n' ∉ signs := by decide
  fun_induction glyphsFrom mark chars with
  | case1 mark => exact unsigned_end mark
  | case2 mark rest ih =>
    exact .cons hbreak (ih fun c hc ↦ h c (List.mem_cons_of_mem _ (List.mem_cons_of_mem _ hc)))
  | case3 mark c rest _ _ ih => exact .cons hbreak (ih fun c hc ↦ h c (List.mem_cons_of_mem _ hc))
  | case4 mark c rest _ _ _ ih => exact .cons (h c List.mem_cons_self) (ih fun c hc ↦ h c (List.mem_cons_of_mem _ hc))
  | case5 mark c rest _ _ _ ih => exact .cons (h c List.mem_cons_self) (ih fun c hc ↦ h c (List.mem_cons_of_mem _ hc))

/-- The next character is no sign. -/
theorem Unsigned.charOf {glyphs : List Glyph} (h : Unsigned glyphs) : charOf glyphs ∉ signs := by
  cases glyphs with
  | nil => decide
  | cons glyph rest => exact h glyph List.mem_cons_self

theorem skipIdle_suffix (inFlow inComment keyAllowed : Bool) (glyphs : List Glyph) :
    (Reading.skipIdle inFlow inComment keyAllowed glyphs).2 <:+ glyphs := by
  induction glyphs generalizing inComment keyAllowed with
  | nil => exact List.suffix_rfl
  | cons glyph rest ih =>
    have hlater (inComment keyAllowed : Bool) :=
      (ih inComment keyAllowed).trans (List.suffix_cons glyph rest)
    unfold Reading.skipIdle
    dsimp only
    repeat' split
    all_goals first | exact hlater _ _ | exact List.suffix_rfl

/-- Reading a plain scalar leaves the end of the text. -/
theorem plainBody_suffix {inFlow : Bool} {indent : Int} {gap? : Option Gap} {read : List Char} {stop : Mark}
    {glyphs : List Glyph} {scalar : PlainScalar} (h : plainBody inFlow indent gap? read stop glyphs = some scalar) :
    scalar.rest <:+ glyphs := by
  induction glyphs generalizing gap? read stop with
  | nil => cases h
  | cons glyph rest ih =>
    unfold plainBody at h
    dsimp only at h
    repeat' split at h
    all_goals first
      | exact (ih h).trans (List.suffix_cons glyph rest)
      | cases h; exact List.suffix_rfl
      | cases h

/-! ## Words that begin no collection -/

/-- The words of the text's ends and of scalars. -/
inductive Lone : Word → Prop where
  | streamStart : Lone .streamStart
  | streamEnd : Lone .streamEnd
  | blockEnd : Lone .blockEnd
  | scalar (style : Style) (text : List Char) : Lone (.scalar style text)

namespace Reading

variable {reading after : Reading}

/-- Neither in what has been read nor in what is left is there anything that begins a collection. -/
structure Quiet (reading : Reading) : Prop where
  rest : Unsigned reading.rest
  tokens : ∀ token ∈ reading.tokens, Lone token.word

/-- What does not show in the tokens or in the rest does not matter. -/
theorem Quiet.of_eq (h : reading.Quiet) (hrest : after.rest = reading.rest) (htokens : after.tokens = reading.tokens) :
    after.Quiet :=
  ⟨hrest ▸ h.rest, htokens ▸ h.tokens⟩

theorem Quiet.push (h : reading.Quiet) {word : Word} (hword : Lone word) (start stop : Mark) :
    (reading.push word start stop).Quiet := by
  refine ⟨h.rest, fun token htoken ↦ ?_⟩
  obtain htoken | rfl := Array.mem_push.1 htoken
  · exact h.tokens token htoken
  · exact hword

theorem Quiet.closeStale (h : reading.Quiet) (hclose : reading.closeStale = some after) : after.Quiet := by
  unfold Reading.closeStale at hclose
  dsimp only at hclose
  split at hclose
  · cases hclose
  · cases hclose
    exact h.of_eq rfl rfl

theorem Quiet.dropPlace (h : reading.Quiet) (hdrop : reading.dropPlace = some after) : after.Quiet := by
  unfold Reading.dropPlace at hdrop
  repeat' split at hdrop
  all_goals
    cases hdrop
    try exact h.of_eq rfl rfl

theorem Quiet.openPlace (h : reading.Quiet) (hopen : reading.openPlace = some after) : after.Quiet := by
  unfold Reading.openPlace at hopen
  split at hopen
  · obtain ⟨dropped, hdrop, hopen⟩ := Option.bind_eq_some_iff.1 hopen
    cases hopen
    exact (h.dropPlace hdrop).of_eq rfl rfl
  · cases hopen
    exact h

theorem Quiet.dedentThrough (h : reading.Quiet) (column : Int) (indents : List Int) :
    (Reading.dedentThrough column indents reading).Quiet := by
  induction indents generalizing reading with
  | nil => exact h
  | cons outer rest ih =>
    unfold Reading.dedentThrough
    split
    · exact ih ((h.push .blockEnd reading.mark reading.mark).of_eq rfl rfl)
    · exact h

theorem Quiet.dedentTo (h : reading.Quiet) (column : Int) : (reading.dedentTo column).Quiet := by
  unfold Reading.dedentTo
  split
  · exact h
  · exact h.dedentThrough column _

theorem Quiet.readEnd (h : reading.Quiet) (hread : reading.readEnd = some after) : after.Quiet := by
  unfold Reading.readEnd at hread
  dsimp only at hread
  obtain ⟨dropped, hdrop, hread⟩ := Option.bind_eq_some_iff.1 hread
  cases hread
  have hended (mark : Mark) : Quiet { reading with rest := [⟨zero, mark⟩] } := ⟨unsigned_end mark, h.tokens⟩
  have hdropped := ((hended _).dedentTo (-1)).dropPlace hdrop
  exact (hdropped.push .streamEnd _ _).of_eq rfl rfl

/-- A plain scalar begins no collection. -/
theorem Quiet.readPlain (h : reading.Quiet) (hread : reading.readPlain = some after) : after.Quiet := by
  unfold Reading.readPlain at hread
  obtain ⟨opened, hopen, hread⟩ := Option.bind_eq_some_iff.1 hread
  obtain ⟨scalar, hscalar, hread⟩ := Option.bind_eq_some_iff.1 hread
  cases hread
  have hopened := h.openPlace hopen
  have hrest := hopened.rest.of_suffix (plainBody_suffix hscalar)
  exact ⟨hrest, (hopened.push (.scalar .plain scalar.text) opened.mark scalar.stop).tokens⟩

/-- Where no sign comes next there is the end of the text, or a plain scalar. -/
theorem Quiet.readToken (h : reading.Quiet) (hread : reading.readToken = some after) : after.Quiet := by
  have hother (sign : Char) (hsign : sign ∈ signs) : (charOf reading.rest == sign) = false :=
    beq_false_of_ne fun hsame ↦ h.rest.charOf (hsame ▸ hsign)
  simp only [signs, List.forall_mem_cons, List.not_mem_nil, false_imp_iff, implies_true, and_true] at hother
  obtain ⟨hpercent, hdash, hpoint, hopenBracket, hopenBrace, hcloseBracket, hcloseBrace, hcomma, hquestion, hcolon,
    hstar, hanchor, htag, hliteral, hfolded, hsingle, hdouble⟩ := hother
  have htriple (c : Char) (hc : (charOf reading.rest == c) = false) : isTriple c reading.rest = false := by
    unfold isTriple
    rw [← charOf, hc]
    rfl
  unfold Reading.readToken at hread
  simp only [hpercent, hdash, hopenBracket, hopenBrace, hcloseBracket, hcloseBrace, hcomma, hquestion, hcolon,
    hstar, hanchor, htag, hliteral, hfolded, hsingle, hdouble, htriple '-' hdash, htriple '.' hpoint, Bool.and_false,
    Bool.false_and, Bool.false_eq_true, if_false] at hread
  split at hread
  · exact h.readEnd hread
  · split at hread
    · exact h.readPlain hread
    · cases hread

theorem Quiet.next (h : reading.Quiet) (hnext : reading.next = some after) : after.Quiet := by
  unfold Reading.next at hnext
  dsimp only at hnext
  obtain ⟨closed, hclose, hnext⟩ := Option.bind_eq_some_iff.1 hnext
  obtain ⟨read, hread, hnext⟩ := Option.bind_eq_some_iff.1 hnext
  have hidle (keyAllowed : Bool) (rest : List Glyph) (hrest : rest <:+ reading.rest) :
      Quiet { reading with keyAllowed, rest } := ⟨h.rest.of_suffix hrest, h.tokens⟩
  have hclosed := (hidle _ _ (skipIdle_suffix _ _ _ _)).closeStale hclose
  exact ((hclosed.dedentTo _).readToken hread).closeStale hnext

/-- Quiet reading stays quiet to its end. -/
theorem Quiet.run (h : reading.Quiet) (steps : Nat) : (Reading.run steps reading).1.Quiet := by
  induction steps generalizing reading with
  | zero => exact h
  | succ steps ih =>
    unfold Reading.run
    split
    · exact h
    · split
      · next hnext => exact ih (h.next hnext)
      · exact h

theorem mem_of_mem_settled {token : Token} (h : token ∈ reading.settled) : token ∈ reading.tokens := by
  unfold settled at h
  dsimp only at h
  split at h
  · rw [Array.toList_extract] at h
    exact Array.mem_toList_iff.1 (List.mem_of_mem_drop (List.mem_of_mem_take h))
  · exact Array.mem_toList_iff.1 h

end Reading

/-- A text without signs has no tokens but scalars between its ends. -/
theorem lone_tokens {glyphs : List Glyph} (h : Unsigned glyphs) : ∀ token ∈ tokens glyphs, Lone token.word := by
  have hfirst : Reading.Quiet { rest := glyphs, tokens := #[⟨.streamStart, markOf glyphs, markOf glyphs⟩] } := by
    refine ⟨h, fun token htoken ↦ ?_⟩
    rw [Array.mem_singleton.1 htoken]
    exact .streamStart
  have hrun := hfirst.run (glyphs.length + 1)
  intro token htoken
  unfold tokens at htoken
  dsimp only at htoken
  split at htoken
  · exact hrun.tokens token (Array.mem_toList_iff.1 htoken)
  · exact hrun.tokens token (Reading.mem_of_mem_settled htoken)

/-! ## Events of a single scalar -/

/-- What happens in a document of a single scalar, and around it. -/
inductive Single : Happening → Prop where
  | documentStart : Single .documentStart
  | documentEnd : Single .documentEnd
  | streamEnd : Single .streamEnd
  | scalar (properties : Properties) (style : Style) (text : List Char) : Single (.scalar properties style text)

namespace Machine

variable {machine next : Machine} {event : Event}

/-- No collection is open, and none will be. -/
structure Flat (machine : Machine) : Prop where
  tokens : ∀ token ∈ machine.tokens, Lone token.word
  expected : machine.expected ∈ [.stream, .document, .documentEnd, .blockNode]
  after : ∀ expected ∈ machine.after, expected = .documentEnd

theorem Flat.lone (h : machine.Flat) {word : Word} {start stop : Mark} {rest : List Token}
    (hrest : machine.tokens = ⟨word, start, stop⟩ :: rest) : Lone word :=
  h.tokens _ (hrest ▸ List.mem_cons_self)

theorem Flat.skip (h : machine.Flat) : machine.skip.Flat :=
  ⟨fun token htoken ↦ h.tokens token (List.mem_of_mem_tail htoken), h.expected, h.after⟩

theorem Flat.back (h : machine.Flat) : machine.back.Flat := by
  have hafter := h.after
  unfold Machine.back
  split
  · next hback =>
    rw [hback] at hafter
    obtain ⟨hfirst, hrest⟩ := List.forall_mem_cons.1 hafter
    exact ⟨h.tokens, by simp [hfirst], hrest⟩
  · exact h

theorem dropWhile_of_lone {tokens : List Token} (h : ∀ token ∈ tokens, Lone token.word) :
    tokens.dropWhile (·.word = .documentEnd) = tokens := by
  cases tokens with
  | nil => rfl
  | cons token rest =>
    have hfirst : token.word ≠ .documentEnd := by
      intro hend
      have hlone := h token List.mem_cons_self
      rw [hend] at hlone
      cases hlone
    rw [List.dropWhile_cons_of_neg (by simpa using hfirst)]

theorem Flat.document (h : machine.Flat) {first : Bool} (hstep : machine.document first = some (event, next)) :
    Single event.what ∧ next.Flat := by
  have hbegun : Flat { machine with expected := .blockNode, after := .documentEnd :: machine.after, handles := [] } :=
    ⟨h.tokens, by simp, List.forall_mem_cons.2 ⟨rfl, h.after⟩⟩
  have hskip := h.skip
  unfold Machine.document at hstep
  rw [dropWhile_of_lone h.tokens, ite_self] at hstep
  cases hrest : machine.tokens with
  | nil => simp [hrest] at hstep
  | cons token rest =>
    obtain ⟨word, start, stop⟩ := token
    cases h.lone hrest with
    | streamEnd =>
      simp only [hrest] at hstep
      cases hstep
      exact ⟨.streamEnd, hskip⟩
    | _ =>
      cases first with
      | true =>
        simp only [hrest] at hstep
        cases hstep
        exact ⟨.documentStart, hrest ▸ hbegun⟩
      | false => simp [hrest, openDocument, directives] at hstep

theorem Flat.closeDocument (h : machine.Flat) (hstep : machine.closeDocument = some (event, next)) :
    Single event.what ∧ next.Flat := by
  unfold Machine.closeDocument at hstep
  split at hstep
  · cases hstep
  · cases hstep
    refine ⟨.documentEnd, ?_⟩
    split
    · exact ⟨h.skip.tokens, by simp [expect], h.after⟩
    · exact ⟨h.tokens, by simp [expect], h.after⟩

theorem Flat.node (h : machine.Flat) {block loose : Bool} (hstep : machine.node block loose = some (event, next)) :
    Single event.what ∧ next.Flat := by
  have hnext := h.skip.back
  unfold Machine.node properties at hstep
  cases hrest : machine.tokens with
  | nil => simp [hrest] at hstep
  | cons token rest =>
    obtain ⟨word, start, stop⟩ := token
    cases h.lone hrest with
    | scalar style text =>
      simp [hrest] at hstep
      obtain ⟨rfl, rfl⟩ := hstep
      exact ⟨.scalar _ _ _, hnext⟩
    | _ => simp [hrest] at hstep

/-- Out of scalars alone a step makes no collection. -/
theorem Flat.step (h : machine.Flat) (hstep : machine.step = some (event, next)) : Single event.what ∧ next.Flat := by
  have hexpected := h.expected
  simp only [List.mem_cons, List.not_mem_nil, or_false] at hexpected
  unfold Machine.step at hstep
  split at hstep
  · cases hstep
  · obtain hexpected | hexpected | hexpected | hexpected := hexpected <;> simp only [hexpected] at hstep
    · exact h.skip.document hstep
    · exact h.document hstep
    · exact h.closeDocument hstep
    · exact h.node hstep

/-- Out of scalars alone nothing happens in a document but a single scalar. -/
theorem Flat.run (h : machine.Flat) (steps : Nat) : ∀ event ∈ machine.run steps, Single event.what := by
  induction steps generalizing machine with
  | zero => exact nofun
  | succ steps ih =>
    unfold Machine.run
    split
    · next hstep =>
      obtain ⟨hsingle, hnext⟩ := h.step hstep
      split
      · exact List.forall_mem_cons.2 ⟨hsingle, nofun⟩
      · exact List.forall_mem_cons.2 ⟨hsingle, ih hnext⟩
    · exact nofun

end Machine

/-! ## A document of a single scalar -/

/-- The node is no mapping. -/
def Node.Mapless (node : Node) : Prop := ∀ mark tag entries, node ≠ .mapping mark tag entries

theorem Node.mapless_cut : Node.cut.Mapless := by
  intro _ _ _ h
  cases h

theorem Node.mapless_scalar (mark : Mark) (tag : Option (List Char)) (style : Style) (text : List Char) :
    (Node.scalar mark tag style text).Mapless := by
  intro _ _ _ h
  cases h

namespace Assembly

variable {assembly next : Assembly}

/-- No collection is open, and no mapping has been put together. -/
structure Bare (assembly : Assembly) : Prop where
  stack : assembly.stack = []
  root : (assembly.root.getD .cut).Mapless

theorem Bare.put (h : assembly.Bare) {node : Node} (hnode : node.Mapless) : (assembly.put node).Bare := by
  unfold Assembly.put
  rw [h.stack]
  exact ⟨rfl, hnode⟩

theorem Bare.name (h : assembly.Bare) (anchor : Option (List Char)) : (assembly.name anchor).2.Bare := by
  cases anchor <;> exact ⟨h.stack, h.root⟩

theorem Bare.keep (h : assembly.Bare) (number? : Option Nat) (position : Nat) (node : Node) :
    (assembly.keep number? position node).Bare := by
  cases number? <;> exact ⟨h.stack, h.root⟩

/-- A scalar opens no collection, and is no mapping. -/
theorem Bare.take (h : assembly.Bare) {event : Event} (hsingle : Single event.what)
    (htake : assembly.take event = some next) : next.Bare := by
  obtain ⟨what, mark⟩ := event
  cases hsingle with
  | scalar properties style text =>
    cases htake
    have hput := ((h.name properties.anchor).keep (assembly.name properties.anchor).1
      (assembly.name properties.anchor).2.count (.scalar mark properties.tag style text)).put
        (Node.mapless_scalar mark properties.tag style text)
    exact ⟨hput.stack, hput.root⟩
  | _ =>
    cases htake
    exact ⟨h.stack, h.root⟩

theorem Bare.mapless_cutOff (h : assembly.Bare) : (Document.cutOff assembly).root.Mapless := by
  unfold Document.cutOff closeCut
  rw [h.stack]
  exact h.root

theorem Bare.mapless_assemble (h : assembly.Bare) {events : List Event}
    (hsingle : ∀ event ∈ events, Single event.what) : (Document.assemble assembly events).root.Mapless := by
  induction events generalizing assembly with
  | nil => exact h.mapless_cutOff
  | cons event rest ih =>
    obtain ⟨hfirst, hrest⟩ := List.forall_mem_cons.1 hsingle
    unfold Document.assemble
    split
    · exact h.root
    · split
      · next htake => exact ih (h.take hfirst htake) hrest
      · exact h.mapless_cutOff

end Assembly

/-- A text of nothing but blanks holds no mapping. -/
theorem mapless_of_blank {text : String} (h : Text.isBlankText text = true) {document : Document}
    (hdocument : Document.ofText text = some document) : document.root.Mapless := by
  have hsigns : ∀ c ∈ text.toList, c ∉ signs := fun c hc ↦ not_sign_of_isBlank (List.all_eq_true.1 h c hc)
  have hevents : ∀ event ∈ events text, Single event.what := by
    unfold events glyphs?
    split
    · exact nofun
    · next glyphs hglyphs =>
      obtain ⟨-, hglyphs⟩ := Option.ite_none_right_eq_some.1 hglyphs
      cases hglyphs
      have hflat : Machine.Flat { tokens := tokens (glyphsFrom {} text.toList) } :=
        ⟨lone_tokens (unsigned_glyphsFrom hsigns {}), by simp, nofun⟩
      exact hflat.run _
  unfold Document.ofText at hdocument
  split at hdocument
  · cases hdocument
  · next hstart =>
    rw [hstart] at hevents
    cases hdocument
    have hempty : Assembly.Bare {} := ⟨rfl, Node.mapless_cut⟩
    exact hempty.mapless_assemble (List.forall_mem_cons.1 hevents).2
  · cases hdocument
    exact Node.mapless_cut

end FleetAgent.Yaml
