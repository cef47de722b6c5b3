import FleetAgent.Log.Client
import FleetAgent.Text.Split
import Mathlib.Data.List.Basic

/-!
# Reading reports of the connection

Pairs of keys and values are rendered on one line, and can be read off it again. A quoted value shows no blank
but the space and tells its own end, since nothing inside it looks like the quote behind it; a value without
quotes has no blank at all and ends where the space before the next pair is. Neither can be taken for the
other as long as no value without blanks begins with a quote.
-/

namespace FleetAgent

namespace Text

/-! ## Code points in hexadecimal digits -/

theorem exists_digit_of_mem_hexOf {n : Nat} {c : Char} (h : c ∈ hexOf n) :
    ∃ digit < 16, c = Nat.digitChar digit := by
  induction n using Nat.strongRecOn with
  | ind n ih =>
    by_cases hn : n < 16
    · rw [hexOf, Nat.toDigits_of_lt_base hn] at h
      exact ⟨n, hn, List.mem_singleton.1 h⟩
    · rw [hexOf, Nat.toDigits_of_base_le (by decide) (by omega)] at h
      rcases List.mem_append.1 h with hfront | hlast
      · exact ih (n / 16) (by omega) hfront
      · exact ⟨n % 16, Nat.mod_lt n (by decide), List.mem_singleton.1 hlast⟩

/-- A hexadecimal digit is no blank and no brace. -/
theorem digitChar_plain : ∀ digit < 16,
    isBlank (Nat.digitChar digit) = false ∧ Nat.digitChar digit ≠ '\x7d' := by
  decide

theorem digitChar_inj_of_lt : ∀ digit < 16, ∀ other < 16,
    Nat.digitChar digit = Nat.digitChar other → digit = other := by
  decide

/-- A code point is told by its digits. -/
theorem hexOf_injective : Function.Injective hexOf := by
  intro m n h
  induction m using Nat.strongRecOn generalizing n with
  | ind m ih =>
    have hm := Nat.toDigits_eq_if (n := m) (show 1 < 16 by decide)
    have hn := Nat.toDigits_eq_if (n := n) (show 1 < 16 by decide)
    rw [hexOf, hexOf, hm, hn] at h
    split at h
    · split at h
      · exact digitChar_inj_of_lt m ‹_› n ‹_› (List.singleton_inj.1 h)
      · have hlengths := congrArg List.length h
        simp at hlengths
    · split at h
      · have hlengths := congrArg List.length h
        simp at hlengths
      · obtain ⟨hfront, hlast⟩ := List.append_inj' h rfl
        have hquotient : m / 16 = n / 16 := ih (m / 16) (by omega) hfront
        have hrest : m % 16 = n % 16 :=
          digitChar_inj_of_lt _ (Nat.mod_lt m (by decide)) _ (Nat.mod_lt n (by decide)) (List.singleton_inj.1 hlast)
        omega

/-! ## Characters between double quotes -/

theorem Ranges.has_of_covered {ranges others : Ranges} {c : Char}
    (h : ∀ range ∈ ranges, ∃ other ∈ others, other.1 ≤ range.1 ∧ range.2 ≤ other.2) (hc : ranges.has c = true) :
    others.has c = true := by
  obtain ⟨range, hrange, hin⟩ := List.any_eq_true.1 hc
  obtain ⟨other, hother, hlow, hhigh⟩ := h range hrange
  simp only [Bool.and_eq_true, decide_eq_true_eq] at hin
  apply List.any_eq_true.2
  refine ⟨other, hother, ?_⟩
  simp only [Bool.and_eq_true, decide_eq_true_eq]
  exact ⟨Nat.le_trans hlow hin.1, Nat.le_trans hin.2 hhigh⟩

/-- No blank is visible but the space, which is a class of its own among them. -/
theorem needsCodePoint_of_isBlank {c : Char} (hc : isBlank c = true) (hspace : c ≠ ' ') : needsCodePoint c = true := by
  have hcovered : ∀ range ∈ blanks.filter (· ≠ (0x20, 0x20)),
      ∃ other ∈ unprintables, other.1 ≤ range.1 ∧ range.2 ≤ other.2 := by
    decide +kernel
  have hrest : Ranges.has (blanks.filter (· ≠ (0x20, 0x20))) c = true := by
    obtain ⟨range, hrange, hin⟩ := List.any_eq_true.1 hc
    apply List.any_eq_true.2
    refine ⟨range, List.mem_filter.2 ⟨hrange, ?_⟩, hin⟩
    rw [decide_eq_true_eq]
    rintro rfl
    simp only [Bool.and_eq_true, decide_eq_true_eq] at hin
    exact hspace (Char.toNat_inj.1 (Nat.le_antisymm hin.2 hin.1))
  rw [needsCodePoint, Ranges.has_of_covered hcovered hrest, Bool.or_true]

/-- The characters that stand behind a backslash for another one or for themselves. -/
def escapeLetters : List Char := ['0', 't', 'r', 'n', '"', '\\']

/-- What a letter stands for behind a backslash. -/
def escapedBy : Char → Char
  | '0' => '\x00'
  | 't' => '\t'
  | 'r' => '\r'
  | 'n' => '\n'
  | c => c

/-- The forms that a character can have between double quotes. -/
inductive Escaped (c : Char) : List Char → Prop where
  | plain (hquote : c ≠ '"') (hbackslash : c ≠ '\\') (hblank : isBlank c = true → c = ' ') : Escaped c [c]
  | letter (letter : Char) (hletter : letter ∈ escapeLetters) (hc : escapedBy letter = c) :
      Escaped c ['\\', letter]
  | codePoint : Escaped c ('\\' :: 'u' :: '\x7b' :: hexOf c.toNat ++ ['\x7d'])

/-- Every character takes one of the forms between quotes. -/
theorem escaped_escapeChar (c : Char) : Escaped c (escapeChar '"' c) := by
  unfold escapeChar
  split_ifs with hnull htab hreturn hnewline hself hcode
  · exact .letter '0' (by decide) hnull.symm
  · exact .letter 't' (by decide) htab.symm
  · exact .letter 'r' (by decide) hreturn.symm
  · exact .letter 'n' (by decide) hnewline.symm
  · rcases hself with rfl | rfl
    · exact .letter '"' (by decide) rfl
    · exact .letter '\\' (by decide) rfl
  · exact .codePoint
  · rw [not_or] at hself
    exact .plain hself.1 hself.2 fun hblank ↦
      by_contra fun hspace ↦ hcode (needsCodePoint_of_isBlank hblank hspace)

/-- No form of a character has a blank in it, but for the space itself. -/
theorem Escaped.eq_space {c d : Char} {form : List Char} (h : Escaped c form) (hd : d ∈ form)
    (hblank : isBlank d = true) : d = ' ' := by
  have hletters : escapeLetters.any isBlank = false := by decide
  have hmarks : ['\\', 'u', '\x7b', '\x7d'].any isBlank = false := by decide
  have hmark {mark : Char} (hmem : mark ∈ ['\\', 'u', '\x7b', '\x7d']) : ¬ isBlank mark = true :=
    List.any_eq_false.1 hmarks mark hmem
  cases h with
  | plain _ _ hspace =>
    obtain rfl := List.mem_singleton.1 hd
    exact hspace hblank
  | letter letter hletter _ =>
    rcases hd with _ | ⟨_, _ | ⟨_, ⟨⟩⟩⟩
    · exact absurd hblank (hmark (.head _))
    · exact absurd hblank (List.any_eq_false.1 hletters _ hletter)
  | codePoint =>
    rcases List.mem_append.1 hd with hfront | hlast
    · have hparts : d ∈ ['\\', 'u', '\x7b'] ++ hexOf c.toNat := hfront
      rcases List.mem_append.1 hparts with hopen | hdigit
      · exact absurd hblank (hmark (List.mem_append_left ['\x7d'] hopen))
      · obtain ⟨digit, hlt, rfl⟩ := exists_digit_of_mem_hexOf hdigit
        rw [(digitChar_plain digit hlt).1] at hblank
        cases hblank
    · obtain rfl := List.mem_singleton.1 hlast
      exact absurd hblank (hmark (by simp))

/-- No form of a character begins with a quote. -/
theorem Escaped.exists_cons {c : Char} {form : List Char} (h : Escaped c form) :
    ∃ first rest, form = first :: rest ∧ first ≠ '"' := by
  cases h with
  | plain hquote => exact ⟨c, [], rfl, hquote⟩
  | letter => exact ⟨_, _, rfl, by decide⟩
  | codePoint => exact ⟨_, _, rfl, by decide⟩

/-- The form of a character tells the character and its own end. -/
theorem Escaped.unique {c c' : Char} {form form' rest rest' : List Char} (h : Escaped c form)
    (h' : Escaped c' form') (heq : form ++ rest = form' ++ rest') : c = c' ∧ rest = rest' := by
  have hu : 'u' ∉ escapeLetters := by decide
  have hbrace (n : Nat) : '\x7d' ∉ hexOf n := by
    intro hmem
    obtain ⟨digit, hlt, hdigit⟩ := exists_digit_of_mem_hexOf hmem
    exact (digitChar_plain digit hlt).2 hdigit.symm
  cases h with
  | plain _ hbackslash _ =>
    cases h' with
    | plain => simpa using heq
    | letter | codePoint => exact absurd (List.cons.inj heq).1 hbackslash
  | letter letter hletter hc =>
    cases h' with
    | plain _ hbackslash _ => exact absurd (List.cons.inj heq).1.symm hbackslash
    | letter letter' _ hc' =>
      simp only [List.cons_append, List.nil_append, List.cons.injEq, true_and] at heq
      obtain ⟨rfl, hrest⟩ := heq
      exact ⟨hc.symm.trans hc', hrest⟩
    | codePoint =>
      simp only [List.cons_append, List.nil_append, List.cons.injEq, true_and] at heq
      exact absurd (heq.1 ▸ hletter) hu
  | codePoint =>
    cases h' with
    | plain _ hbackslash _ => exact absurd (List.cons.inj heq).1.symm hbackslash
    | letter letter' hletter' _ =>
      simp only [List.cons_append, List.nil_append, List.cons.injEq, true_and] at heq
      exact absurd (heq.1 ▸ hletter') hu
    | codePoint =>
      simp only [List.cons_append, List.cons.injEq, List.append_assoc, true_and, List.nil_append] at heq
      obtain ⟨hdigits, hrest⟩ := append_cons_inj_of_first (hbrace _) (hbrace _) heq
      exact ⟨Char.toNat_inj.1 (hexOf_injective hdigits), hrest⟩

/-! ## Quoted text -/

theorem eq_space_of_mem_quotedChars {chars : List Char} {c : Char} (hc : c ∈ quotedChars chars)
    (hblank : isBlank c = true) : c = ' ' := by
  simp only [quotedChars, List.cons_append, List.mem_cons, List.mem_append, List.mem_flatMap,
    List.not_mem_nil, or_false] at hc
  rcases hc with rfl | ⟨inner, -, hc⟩ | rfl
  · cases hblank
  · exact (escaped_escapeChar inner).eq_space hc hblank
  · cases hblank

/-- Quoted text tells the text and its own end. -/
theorem quotedChars_inj {chars others rest rest' : List Char}
    (h : quotedChars chars ++ rest = quotedChars others ++ rest') : chars = others ∧ rest = rest' := by
  simp only [quotedChars, List.cons_append, List.append_assoc, List.nil_append, List.cons.injEq, true_and] at h
  induction chars generalizing others with
  | nil =>
    cases others with
    | nil => exact ⟨rfl, (List.cons.inj h).2⟩
    | cons c others =>
      obtain ⟨first, more, hform, hfirst⟩ := (escaped_escapeChar c).exists_cons
      rw [List.flatMap_cons, hform] at h
      exact absurd (List.cons.inj h).1.symm hfirst
  | cons c chars ih =>
    cases others with
    | nil =>
      obtain ⟨first, more, hform, hfirst⟩ := (escaped_escapeChar c).exists_cons
      rw [List.flatMap_cons, hform] at h
      exact absurd (List.cons.inj h).1 hfirst
    | cons c' others =>
      rw [List.flatMap_cons, List.flatMap_cons, List.append_assoc, List.append_assoc] at h
      obtain ⟨rfl, hmore⟩ := (escaped_escapeChar c).unique (escaped_escapeChar c') h
      obtain ⟨rfl, hrest⟩ := ih hmore
      exact ⟨rfl, hrest⟩

end Text

namespace Log

open Text (isBlank)

/-! ## Values -/

def valueChars (value : List Char) : List Char :=
  if value.any isBlank then Text.quotedChars value else value

/-- A rendered value is over: the line is, or a space follows. -/
def EndsHere (rest : List Char) : Prop := ∀ c ∈ rest.head?, c = ' '

/-- A value that needs no quotes has none in front. -/
def Unquoted (value : List Char) : Prop := (∀ c ∈ value, isBlank c = false) → value.head? ≠ some '"'

theorem eq_space_of_mem_valueChars {value : List Char} {c : Char} (hc : c ∈ valueChars value)
    (hblank : isBlank c = true) : c = ' ' := by
  unfold valueChars at hc
  split at hc
  · exact Text.eq_space_of_mem_quotedChars hc hblank
  next hplain => exact absurd (List.any_eq_true.2 ⟨c, hc, hblank⟩) hplain

/-- A value without blanks is over where the next blank is. -/
theorem plain_inj {value other rest rest' : List Char} (hvalue : ∀ c ∈ value, isBlank c = false)
    (hother : ∀ c ∈ other, isBlank c = false) (hrest : EndsHere rest) (hrest' : EndsHere rest')
    (h : value ++ rest = other ++ rest') : value = other ∧ rest = rest' := by
  have hspace : isBlank ' ' = true := by decide
  rcases List.append_eq_append_iff.1 h with ⟨between, rfl, rfl⟩ | ⟨between, rfl, rfl⟩
  · cases between with
    | nil => exact ⟨(List.append_nil value).symm, rfl⟩
    | cons c between =>
      obtain rfl := hrest c rfl
      rw [hother ' ' (List.mem_append_right _ (.head _))] at hspace
      cases hspace
  · cases between with
    | nil => exact ⟨List.append_nil other, rfl⟩
    | cons c between =>
      obtain rfl := hrest' c rfl
      rw [hvalue ' ' (List.mem_append_right _ (.head _))] at hspace
      cases hspace

/-- A value without quotes does not begin like a quoted one, and neither does what is behind it. -/
theorem quotedChars_ne_plain {value other rest rest' : List Char} (hplain : ∀ c ∈ other, isBlank c = false)
    (hother : Unquoted other) (hrest' : EndsHere rest') : Text.quotedChars value ++ rest ≠ other ++ rest' := by
  intro h
  cases other with
  | nil =>
    rw [List.nil_append] at h
    have hspace := hrest' _ (congrArg List.head? h.symm)
    exact absurd hspace (by decide)
  | cons c other =>
    obtain ⟨rfl, -⟩ := List.cons.inj h
    exact hother hplain rfl

/-- A value is told by its rendered form, whatever follows behind it. -/
theorem valueChars_inj {value other rest rest' : List Char} (hvalue : Unquoted value) (hother : Unquoted other)
    (hrest : EndsHere rest) (hrest' : EndsHere rest') (h : valueChars value ++ rest = valueChars other ++ rest') :
    value = other ∧ rest = rest' := by
  have hplain {chars : List Char} (hany : ¬ chars.any isBlank = true) : ∀ c ∈ chars, isBlank c = false := by
    simpa using hany
  unfold valueChars at h
  split at h
  · split at h
    · exact Text.quotedChars_inj h
    next hany => exact absurd h (quotedChars_ne_plain (hplain hany) hother hrest')
  next hany =>
    split at h
    · exact absurd h.symm (quotedChars_ne_plain (hplain hany) hvalue hrest)
    next hany' => exact plain_inj (hplain hany) (hplain hany') hrest hrest' h

/-! ## Pairs -/

def pairChars (pair : String × String) : List Char := pair.1.toList ++ '=' :: valueChars pair.2.toList

def laterChars (pairs : List (String × String)) : List Char := pairs.flatMap fun pair ↦ ' ' :: pairChars pair

theorem renderPair_toList (pair : String × String) : (renderPair pair).toList = pairChars pair := by
  unfold renderPair pairChars valueChars
  split <;> simp [Text.quoted]

theorem renderPairs_toList_cons (pair : String × String) (pairs : List (String × String)) :
    (renderPairs (pair :: pairs)).toList = pairChars pair ++ laterChars pairs := by
  have htail : [' '].intercalate ((pair :: pairs).map pairChars) = pairChars pair ++ laterChars pairs := by
    induction pairs generalizing pair with
    | nil => simp [laterChars]
    | cons next pairs ih =>
      rw [List.map_cons, List.map_cons, List.intercalate_cons_cons, ← List.map_cons, ih next]
      simp [laterChars]
  rw [renderPairs, String.toList_intercalate, List.map_map, ← htail]
  congr 1
  exact List.map_congr_left fun pair _ ↦ renderPair_toList pair

theorem endsHere_laterChars (pairs : List (String × String)) : EndsHere (laterChars pairs) := by
  cases pairs with
  | nil => exact nofun
  | cons pair pairs =>
    rintro c ⟨⟩
    rfl

/-- The keys are words without an equals sign, and no value that needs no quotes has one in front. -/
structure Legible (pairs : List (String × String)) : Prop where
  keys : ∀ pair ∈ pairs, ∀ c ∈ pair.1.toList, isBlank c = false ∧ c ≠ '='
  values : ∀ pair ∈ pairs, Unquoted pair.2.toList

/-- A pair is told by its rendered form, since no key has an equals sign in it. -/
theorem pairChars_inj {pair other : String × String} {rest rest' : List Char}
    (hkey : ∀ c ∈ pair.1.toList, isBlank c = false ∧ c ≠ '=')
    (hkey' : ∀ c ∈ other.1.toList, isBlank c = false ∧ c ≠ '=') (hvalue : Unquoted pair.2.toList)
    (hother : Unquoted other.2.toList) (hrest : EndsHere rest) (hrest' : EndsHere rest')
    (h : pairChars pair ++ rest = pairChars other ++ rest') : pair = other ∧ rest = rest' := by
  simp only [pairChars, List.append_assoc, List.cons_append] at h
  obtain ⟨hkeys, hvalues⟩ :=
    Text.append_cons_inj_of_first (fun hmem ↦ (hkey _ hmem).2 rfl) (fun hmem ↦ (hkey' _ hmem).2 rfl) h
  obtain ⟨hsame, hrests⟩ := valueChars_inj hvalue hother hrest hrest' hvalues
  exact ⟨Prod.ext (String.toList_injective hkeys) (String.toList_injective hsame), hrests⟩

theorem Legible.tail {pair : String × String} {pairs : List (String × String)} (h : Legible (pair :: pairs)) :
    Legible pairs where
  keys := fun other hother ↦ h.keys other (.tail _ hother)
  values := fun other hother ↦ h.values other (.tail _ hother)

theorem Legible.pairChars_inj {pair other : String × String} {pairs others : List (String × String)}
    (h : Legible (pair :: pairs)) (h' : Legible (other :: others))
    (heq : pairChars pair ++ laterChars pairs = pairChars other ++ laterChars others) :
    pair = other ∧ laterChars pairs = laterChars others :=
  Log.pairChars_inj (h.keys pair (.head _)) (h'.keys other (.head _)) (h.values pair (.head _))
    (h'.values other (.head _)) (endsHere_laterChars pairs) (endsHere_laterChars others) heq

/-- Pairs are told by the rest of their line. -/
theorem laterChars_inj {pairs others : List (String × String)} (h : Legible pairs) (h' : Legible others)
    (heq : laterChars pairs = laterChars others) : pairs = others := by
  induction pairs generalizing others with
  | nil =>
    cases others with
    | nil => rfl
    | cons other others => cases heq
  | cons pair pairs ih =>
    cases others with
    | nil => cases heq
    | cons other others =>
      simp only [laterChars, List.flatMap_cons, List.cons_append, List.cons.injEq, true_and] at heq
      obtain ⟨rfl, hlater⟩ := h.pairChars_inj h' heq
      rw [ih h.tail h'.tail hlater]

/-- Pairs that are legible are told by their line. -/
theorem renderPairs_inj {pairs others : List (String × String)} (h : Legible pairs) (h' : Legible others)
    (heq : renderPairs pairs = renderPairs others) : pairs = others := by
  have hchars := congrArg String.toList heq
  have hne (pair : String × String) (rest : List Char) : [] ≠ pairChars pair ++ rest := by
    simp [pairChars]
  cases pairs with
  | nil =>
    cases others with
    | nil => rfl
    | cons other others =>
      rw [renderPairs_toList_cons] at hchars
      exact absurd hchars (hne _ _)
  | cons pair pairs =>
    cases others with
    | nil =>
      rw [renderPairs_toList_cons] at hchars
      exact absurd hchars.symm (hne _ _)
    | cons other others =>
      rw [renderPairs_toList_cons, renderPairs_toList_cons] at hchars
      obtain ⟨rfl, hlater⟩ := h.pairChars_inj h' hchars
      rw [laterChars_inj h.tail h'.tail hlater]

theorem eq_space_of_mem_pairChars {pair : String × String} (hkey : ∀ c ∈ pair.1.toList, isBlank c = false)
    {c : Char} (hc : c ∈ pairChars pair) (hblank : isBlank c = true) : c = ' ' := by
  rcases List.mem_append.1 hc with hmem | hmem
  · rw [hkey c hmem] at hblank
    cases hblank
  · rcases List.mem_cons.1 hmem with rfl | hmem
    · cases hblank
    · exact eq_space_of_mem_valueChars hmem hblank

/-- When there is no blank in the keys the line has none but spaces, and so is a single line. -/
theorem eq_space_of_mem_renderPairs {pairs : List (String × String)}
    (hkeys : ∀ pair ∈ pairs, ∀ c ∈ pair.1.toList, isBlank c = false) {c : Char}
    (hc : c ∈ (renderPairs pairs).toList) (hblank : isBlank c = true) : c = ' ' := by
  cases pairs with
  | nil => cases hc
  | cons pair pairs =>
    obtain ⟨hkey, hrest⟩ := List.forall_mem_cons.1 hkeys
    rw [renderPairs_toList_cons] at hc
    rcases List.mem_append.1 hc with hmem | hmem
    · exact eq_space_of_mem_pairChars hkey hmem hblank
    · obtain ⟨later, hlater, hmem⟩ := List.mem_flatMap.1 hmem
      rcases List.mem_cons.1 hmem with rfl | hmem
      · rfl
      · exact eq_space_of_mem_pairChars (hrest later hlater) hmem hblank

/-- Pairs stand on one line, whose only blanks are spaces, whatever their values are; and from legible ones
the line can be read back, which tells their number, their keys and their values. -/
theorem pairs_on_one_line (pairs : List (String × String))
    (hkeys : ∀ pair ∈ pairs, ∀ c ∈ pair.1.toList, isBlank c = false) :
    (∀ c ∈ (renderPairs pairs).toList, isBlank c = true → c = ' ') ∧
      ∀ others, (∀ pair ∈ pairs, ∀ c ∈ pair.1.toList, c ≠ '=') →
        (∀ pair ∈ others, ∀ c ∈ pair.1.toList, isBlank c = false ∧ c ≠ '=') →
        (∀ pair ∈ pairs ++ others, (∀ c ∈ pair.2.toList, isBlank c = false) → pair.2.toList.head? ≠ some '"') →
          renderPairs pairs = renderPairs others → pairs = others := by
  refine ⟨fun c hc hblank ↦ eq_space_of_mem_renderPairs hkeys hc hblank, ?_⟩
  intro others hequals hothers hvalues heq
  have hpairs : Legible pairs :=
    ⟨fun pair hpair c hc ↦ ⟨hkeys pair hpair c hc, hequals pair hpair c hc⟩,
      fun pair hpair ↦ hvalues pair (List.mem_append_left _ hpair)⟩
  have hothers' : Legible others := ⟨hothers, fun pair hpair ↦ hvalues pair (List.mem_append_right _ hpair)⟩
  exact renderPairs_inj hpairs hothers' heq

/-- Values that look like the next pair, that begin a line, and that have a quote in them. -/
def unruly : List (String × String) :=
  [("reason", "down retry=1"), ("note", "one\ntwo\u00a0three"), ("rest", "a\"b"), ("none", "")]

/-- The pairs that the first of these values looks like. -/
def lookalike : List (String × String) :=
  [("reason", "down"), ("retry", "1"), ("note", "one\ntwo\u00a0three"), ("rest", "a\"b"), ("none", "")]

theorem unruly_on_one_line :
    (∀ pair ∈ unruly, ∀ c ∈ pair.1.toList, isBlank c = false) ∧
      (∀ c ∈ (renderPairs unruly).toList, isBlank c = true → c = ' ') ∧
      renderPairs unruly ≠ renderPairs lookalike := by
  have hkeys : ∀ pair ∈ unruly, ∀ c ∈ pair.1.toList, isBlank c = false := by
    have hall : (unruly.all fun pair ↦ pair.1.toList.all (!isBlank ·)) = true := by decide +kernel
    simpa using hall
  obtain ⟨hline, hreads⟩ := pairs_on_one_line unruly hkeys
  refine ⟨hkeys, hline, fun heq ↦ ?_⟩
  have hsame : unruly = lookalike := by
    apply hreads lookalike
    · simp [unruly]
    · have hall : (lookalike.all fun pair ↦ pair.1.toList.all fun c ↦ !isBlank c && c != '=') = true := by
        decide +kernel
      simpa using hall
    · simp [unruly, lookalike]
    · exact heq
  exact absurd hsame (by decide)

-- A value without blanks that begins with a quote can look like a quoted one.
example : renderPair ("path", "a\tb") = renderPair ("path", "\"a\\tb\"") := by decide +kernel

end Log

end FleetAgent
