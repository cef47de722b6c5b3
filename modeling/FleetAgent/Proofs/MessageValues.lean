import FleetAgent.Json.Record
import FleetAgent.Proofs.QuietHost
import FleetAgent.Proofs.SecretDigits

/-!
# Values read back

What is written in a message is read back as it was, wherever it stands: in front of a comma, of the end of
a list or of the end of an object. `ReadsBack` says this of a reader and a written form. For a text it comes
down to each of its bytes, and for a number to its digits, the last of which has no other behind it.
-/

namespace FleetAgent.Json

open Reader

variable {α β : Type} {written rest : Bytes} {value : α} {read : Reader α}

/-- What may stand behind a value of a list or an object. -/
inductive Delimited : Bytes → Prop where
  | comma (rest : Bytes) : Delimited (comma :: rest)
  | closeList (rest : Bytes) : Delimited (closeList :: rest)
  | closeObject (rest : Bytes) : Delimited (closeObject :: rest)

/-- The byte is no blank and ends nothing, so a value can begin with it. -/
def Begins (byte : UInt8) : Prop := isBlank byte = false ∧ byte ≠ closeList ∧ byte ≠ closeObject

instance (byte : UInt8) : Decidable (Begins byte) := inferInstanceAs (Decidable (_ ∧ _))

/-- The reader takes the written form in front of anything that may follow, and gives the value. -/
structure ReadsBack (read : Reader α) (written : Bytes) (value : α) : Prop where
  begins : ∃ first more, written = first :: more ∧ Begins first
  read : ∀ rest, Delimited rest → read (written ++ rest) = (.ok value, rest)

namespace ReadsBack

/-- What is made of the value. -/
theorem bind_pure (h : ReadsBack read written value) (f : α → β) :
    ReadsBack (read >>= fun value ↦ pure (f value)) written (f value) := by
  refine ⟨h.begins, fun rest hrest ↦ ?_⟩
  rw [bind_of_ok (h.read rest hrest)]
  rfl

end ReadsBack

theorem solid?_cons {byte : UInt8} (h : isBlank byte = false) (rest : Bytes) :
    solid? (byte :: rest) = (.ok (some byte), byte :: rest) := by
  unfold solid?
  rw [List.dropWhile_cons_of_neg (by rw [h]; exact Bool.false_ne_true)]
  rfl

theorem placed_of_ok {text : Bytes} (h : read text = (.ok value, rest)) : placed read text = (.ok value, rest) := by
  unfold placed
  rw [h]

/-- A value with its end behind it is read when both are. -/
theorem closedBy_of_ok {close : Reader Unit} {text middle : Bytes} (h : read text = (.ok value, middle))
    (hclose : close middle = (.ok (), rest)) : closedBy close read text = (.ok value, rest) := by
  unfold closedBy
  rw [h]
  dsimp only
  rw [hclose]

/-- A value is read by its first byte. -/
theorem value_of_ok {byte : UInt8} {text : Bytes} {choose : UInt8 → Reader α} (hshown : isBlank byte = false)
    (h : choose byte (byte :: text) = (.ok value, rest)) :
    Json.value choose (byte :: text) = (.ok value, rest) := by
  refine placed_of_ok ?_
  rw [bind_of_ok (solid?_cons hshown text)]
  exact h

/-! ## Truth values -/

theorem bool_readsBack (flag : Bool) : ReadsBack bool (writtenBool flag) flag := by
  cases flag with
  | true => exact ⟨⟨_, _, rfl, by decide⟩, fun rest _ ↦ value_of_ok (by decide) rfl⟩
  | false => exact ⟨⟨_, _, rfl, by decide⟩, fun rest _ ↦ value_of_ok (by decide) rfl⟩

/-! ## Texts -/

/-- The forms in which a byte of a text is written. -/
inductive Escape (byte : UInt8) : Bytes → Prop where
  | letter {letter : UInt8} (hcode : letter ≠ codeLetter) (hslash : letter ≠ 0x2F)
    (hfind : letterEscapes.find? (·.2 = letter) = some (byte, letter)) : Escape byte [backslash, letter]
  | code {high low : UInt8} (hhigh : Text.Hex.digit? high = some (byte / 16))
    (hlow : Text.Hex.digit? low = some (byte % 16)) (hcontrol : byte < 0x20) :
    Escape byte [backslash, codeLetter, 0x30, 0x30, high, low]
  | plain (hquote : byte ≠ quote) (hbackslash : byte ≠ backslash) (hshown : ¬ byte < 0x20) : Escape byte [byte]

/-- Every byte is written in one of the forms. -/
theorem escape_escapeByte (byte : UInt8) : Escape byte (escapeByte byte) := by
  have hletters : ∀ escape ∈ letterEscapes, escape.2 ≠ codeLetter ∧ escape.2 ≠ 0x2F ∧
      letterEscapes.find? (·.2 = escape.2) = some escape := by
    simp only [letterEscapes, List.forall_mem_cons, List.not_mem_nil, false_imp_iff, implies_true]
    decide
  have hcodes : ∀ n < 256, (Text.Hex.write [UInt8.ofNat n]).toUTF8.toList.map Text.Hex.digit? =
      [some (UInt8.ofNat n / 16), some (UInt8.ofNat n % 16)] := by decide +kernel
  unfold escapeByte
  cases hlookup : letterEscapes.lookup byte with
  | some letter =>
    obtain ⟨before, after, hsplit, -⟩ := List.lookup_eq_some_iff.1 hlookup
    obtain ⟨hcode, hslash, hfind⟩ := hletters (byte, letter) (by rw [hsplit]; simp)
    exact .letter hcode hslash hfind
  | none =>
    dsimp only
    split
    · next hcontrol =>
      have hdigits := hcodes byte.toNat byte.toNat_lt
      rw [UInt8.ofNat_toNat] at hdigits
      obtain ⟨high, more, hwritten, hhigh, hmore⟩ := List.map_eq_cons_iff.1 hdigits
      obtain ⟨low, none, rfl, hlow, hnone⟩ := List.map_eq_cons_iff.1 hmore
      rw [hwritten, List.map_eq_nil_iff.1 hnone]
      exact .code hhigh hlow hcontrol
    · next hshown =>
      refine .plain ?_ ?_ hshown
      · rintro rfl
        cases hlookup
      · rintro rfl
        cases hlookup

/-- A control that is written with its code is the byte of that code. -/
theorem codeUnit_of_control {byte high low : UInt8} (hhigh : Text.Hex.digit? high = some (byte / 16))
    (hlow : Text.Hex.digit? low = some (byte % 16)) (rest : Bytes) :
    codeUnit (0x30 :: 0x30 :: high :: low :: rest) = .ok byte.toNat := by
  have hzero : Text.Hex.digit? 0x30 = some 0 := by decide
  simp [codeUnit, hhigh, hlow, hzero, Nat.div_add_mod']

theorem encoded_of_control {byte : UInt8} (h : byte < 0x20) : encoded byte.toNat = [byte] := by
  have hall : ∀ n < 32, encoded n = [UInt8.ofNat n] := by decide +kernel
  rw [hall byte.toNat h, UInt8.ofNat_toNat]

/-- The escape of a byte is taken for this byte. -/
theorem Escape.piecesOnto_eq {byte : UInt8} (h : Escape byte written) (pieces : List Piece) (rest : Bytes) :
    piecesOnto pieces (written ++ rest) = piecesOnto ((byte, rest) :: pieces) rest := by
  have hbackslash : backslash ≠ quote := by decide
  cases h with
  | @letter letter hcode hslash hfind =>
    have hescaped : escaped (letter :: rest) = .ok ([byte], 1) := by
      simp only [escaped, if_neg hcode, if_neg hslash, hfind]
    rw [List.cons_append, List.cons_append, List.nil_append, piecesOnto, if_neg hbackslash, if_pos rfl, hescaped]
    rfl
  | @code high low hhigh hlow hcontrol =>
    have hsmall : byte.toNat < 0x20 := hcontrol
    have htrailing : isTrailing byte.toNat = false := by
      simp only [isTrailing, Bool.and_eq_false_iff, decide_eq_false_iff_not]
      omega
    have hleading : isLeading byte.toNat = false := by
      simp only [isLeading, Bool.and_eq_false_iff, decide_eq_false_iff_not]
      omega
    have hescaped : escaped (codeLetter :: 0x30 :: 0x30 :: high :: low :: rest) = .ok ([byte], 5) := by
      rw [escaped, if_pos rfl, codeUnit_of_control hhigh hlow]
      simp only [bind, Except.bind, htrailing, hleading, Bool.false_eq_true, if_false, encoded_of_control hcontrol]
      rfl
    simp only [List.cons_append, List.nil_append]
    rw [piecesOnto, if_neg hbackslash, if_pos rfl, hescaped]
    rfl
  | plain hquote hbackslash hshown =>
    rw [List.singleton_append, piecesOnto, if_neg hquote, if_neg hbackslash, if_neg hshown]

theorem piecesOnto_flatMap (bytes : List UInt8) (pieces : List Piece) (rest : Bytes) :
    ∃ taken, piecesOnto pieces (bytes.flatMap escapeByte ++ quote :: rest) = .ok (pieces.reverse ++ taken, rest) ∧
      taken.map Prod.fst = bytes := by
  induction bytes generalizing pieces with
  | nil => exact ⟨[], by rw [List.flatMap_nil, List.nil_append, piecesOnto, if_pos rfl, List.append_nil], rfl⟩
  | cons byte more ih =>
    rw [List.flatMap_cons, List.append_assoc, (escape_escapeByte byte).piecesOnto_eq]
    obtain ⟨taken, hpieces, htaken⟩ := ih ((byte, more.flatMap escapeByte ++ quote :: rest) :: pieces)
    refine ⟨(byte, more.flatMap escapeByte ++ quote :: rest) :: taken, ?_, congrArg (byte :: ·) htaken⟩
    rw [hpieces, List.reverse_cons, List.append_assoc]
    rfl

/-- A text is read back from between its quotes. -/
theorem readText_written (text : String) (rest : Bytes) :
    readText (text.toUTF8.toList.flatMap escapeByte ++ quote :: rest) = (.ok text, rest) := by
  obtain ⟨taken, hpieces, htaken⟩ := piecesOnto_flatMap text.toUTF8.toList [] rest
  have hbytes : (taken.map Prod.fst).toByteArray = text.toUTF8 := by
    rw [htaken, Text.toList_eq_data]
    exact ByteArray.ext (by simp)
  simp only [readText, ofFunction, hpieces, bind, Except.bind, List.reverse_nil, List.nil_append, hbytes,
    Host.fromUTF8?_toUTF8]
  rfl

/-- A text is read back. -/
theorem text_readsBack (text : String) : ReadsBack Json.text (quotedText text) text := by
  refine ⟨⟨quote, _, rfl, by decide⟩, fun rest _ ↦ ?_⟩
  have hwritten : quotedText text ++ rest = quote :: (text.toUTF8.toList.flatMap escapeByte ++ quote :: rest) := by
    simp [quotedText]
  rw [hwritten]
  refine value_of_ok (by decide) ?_
  rw [if_pos rfl]
  exact readText_written text rest

/-! ## Numbers -/

/-- The number that the digits make behind those of another. -/
def spelledOnto (value : Nat) (digits : Bytes) : Nat :=
  digits.foldl (fun value byte ↦ value * 10 + digitValue byte) value

theorem spelledOnto_cons (value : Nat) (byte : UInt8) (rest : Bytes) :
    spelledOnto value (byte :: rest) = spelledOnto (value * 10 + digitValue byte) rest := by
  rw [spelledOnto, List.foldl_cons, ← spelledOnto]

theorem le_spelledOnto (value : Nat) (digits : Bytes) : value ≤ spelledOnto value digits := by
  induction digits generalizing value with
  | nil => exact Nat.le_refl value
  | cons byte rest ih =>
    refine Nat.le_trans ?_ (ih (value * 10 + digitValue byte))
    omega

theorem whole_of_push {scaled : Scaled} {byte : UInt8} {digits : Nat} (h : scaled.push? byte = some digits)
    (rest : Bytes) : Scaled.whole scaled (byte :: rest) = Scaled.whole { scaled with digits } rest := by
  rw [Scaled.whole_cons, h]

/-- Every digit of a number that fits is taken in. -/
theorem whole_of_fits {n : Nat} (digits : Bytes) (h : spelledOnto n digits < UInt64.size) :
    Scaled.whole ⟨n, 0⟩ digits = ⟨spelledOnto n digits, 0⟩ := by
  induction digits generalizing n with
  | nil => rfl
  | cons byte rest ih =>
    rw [spelledOnto_cons] at h ⊢
    have hfits := Nat.lt_of_le_of_lt (le_spelledOnto (n * 10 + digitValue byte) rest) h
    have hpush : Scaled.push? ⟨n, 0⟩ byte = some (n * 10 + digitValue byte) := if_pos hfits
    rw [whole_of_push hpush]
    exact ih h

/-- The byte of a digit has its value. -/
theorem digit_byte {c : Char} (h : c.isDigit) :
    isDigit c.toNat.toUInt8 = true ∧ digitValue c.toNat.toUInt8 = c.toNat - '0'.toNat := by
  have hall : ∀ n < 10, isDigit (48 + n).toUInt8 = true ∧ digitValue (48 + n).toUInt8 = n := by decide
  have hrange : 48 ≤ c.toNat ∧ c.toNat ≤ 57 := by simpa [Char.isDigit, UInt32.le_iff_toNat_le] using h
  have hsum : 48 + (c.toNat - 48) = c.toNat := by omega
  have hdigit := hall (c.toNat - 48) (by omega)
  rwa [hsum] at hdigit

theorem isDigit_of_mem {n : Nat} {byte : UInt8} (h : byte ∈ digitsOf n) : isDigit byte = true := by
  obtain ⟨c, hc, rfl⟩ := List.mem_map.1 h
  exact (digit_byte (Nat.isDigit_of_mem_toDigits (by decide) (by decide) hc)).1

theorem spelledOnto_map {chars : List Char} (h : ∀ c ∈ chars, c.isDigit) (value : Nat) :
    spelledOnto value (chars.map fun c ↦ c.toNat.toUInt8) = Nat.ofDigitChars 10 chars value := by
  induction chars generalizing value with
  | nil => exact Nat.ofDigitChars_nil.symm
  | cons c rest ih =>
    obtain ⟨hc, hrest⟩ := List.forall_mem_cons.1 h
    rw [List.map_cons, spelledOnto_cons, (digit_byte hc).2, ih hrest, Nat.ofDigitChars_cons, Nat.mul_comm]

/-- The digits of a number spell it. -/
theorem spelledOnto_digitsOf (n : Nat) : spelledOnto 0 (digitsOf n) = n := by
  rw [digitsOf, spelledOnto_map fun c hc ↦ Nat.isDigit_of_mem_toDigits (by decide) (by decide) hc,
    Nat.ofDigitChars_ten_toDigits]

/-- Only the number zero begins with a zero. -/
theorem digitsOf_cases (n : Nat) :
    digitsOf n = [0x30] ∨ ∃ first more, digitsOf n = first :: more ∧ first ≠ 0x30 := by
  have hsingle : ∀ m < 10, m ≠ 0 → ∃ first more, digitsOf m = first :: more ∧ first ≠ 0x30 := by
    intro m hm hne
    have hall : ∀ m < 10, m ≠ 0 → (48 + m).toUInt8 ≠ 0x30 := by decide
    refine ⟨(48 + m).toUInt8, [], ?_, hall m hm hne⟩
    rw [digitsOf, Nat.toDigits_of_lt_base hm, List.map_singleton, Nat.toNat_digitChar_of_lt_ten hm]
  by_cases hn : n = 0
  · exact .inl (hn ▸ rfl)
  · right
    induction n using Nat.base_induction 10 (by decide) with
    | single m hm => exact hsingle m hm hn
    | digit m k hk hm ih =>
      obtain ⟨first, more, hdigits, hfirst⟩ := ih (Nat.ne_of_gt hm)
      have hsplit : digitsOf (10 * m + k) = digitsOf m ++ digitsOf k := by
        rw [digitsOf, ← Nat.toDigits_append_toDigits (by decide) hm hk, List.map_append, digitsOf, digitsOf]
      exact ⟨first, more ++ digitsOf k, by rw [hsplit, hdigits, List.cons_append], hfirst⟩

theorem Delimited.not_digit (h : Delimited rest) : ∃ byte more, rest = byte :: more ∧ isDigit byte = false ∧
    byte ≠ 0x2E ∧ isExponent byte = false := by
  cases h <;> exact ⟨_, _, rfl, by decide, by decide, by decide⟩

theorem next?_cons (byte : UInt8) (rest : Bytes) : next? (byte :: rest) = (.ok (some byte), byte :: rest) := rfl

theorem advance_cons (byte : UInt8) (rest : Bytes) : advance (byte :: rest) = (.ok (), rest) := rfl

theorem digits_append {taken : Bytes} (h : ∀ byte ∈ taken, isDigit byte = true) {byte : UInt8}
    (hstops : isDigit byte = false) (behind : Bytes) :
    digits (taken ++ byte :: behind) = (.ok taken, byte :: behind) := by
  rw [digits, List.takeWhile_append_of_pos h, List.dropWhile_append_of_pos h]
  simp [hstops]

/-- Digits are taken up to what ends a value, and no digit too many. -/
theorem readWhole_digitsOf (n : Nat) (h : Delimited rest) :
    readWhole (digitsOf n ++ rest) = (.ok (digitsOf n), rest) := by
  obtain ⟨byte, behind, rfl, hstops, -, -⟩ := h.not_digit
  have hall : ∀ digit ∈ digitsOf n, isDigit digit = true := fun digit hdigit ↦ isDigit_of_mem hdigit
  obtain hzero | ⟨first, more, hdigits, hfirst⟩ := digitsOf_cases n
  · have hfollowed : (some byte).any isDigit = false := hstops
    rw [hzero] at hall ⊢
    rw [List.singleton_append, readWhole, bind_of_ok (next?_cons _ _)]
    simp only [hall 0x30 List.mem_cons_self, Bool.not_true, Bool.false_eq_true, if_false, if_true]
    rw [bind_of_ok (advance_cons _ _), bind_of_ok (next?_cons _ _), hfollowed]
    rfl
  · rw [hdigits] at hall ⊢
    rw [List.cons_append, readWhole, bind_of_ok (next?_cons _ _)]
    simp only [hall first List.mem_cons_self, Bool.not_true, Bool.false_eq_true, if_false, if_neg hfirst]
    exact digits_append hall hstops behind

theorem readNumber_digitsOf {n : Nat} (hn : n < UInt64.size) (h : Delimited rest) :
    readNumber false (digitsOf n ++ rest) = (.ok (.natural n.toUInt64), rest) := by
  have hscaled : Scaled.whole ⟨0, 0⟩ (digitsOf n) = ⟨n, 0⟩ := by
    rw [whole_of_fits, spelledOnto_digitsOf]
    rwa [spelledOnto_digitsOf]
  have hwhole := readWhole_digitsOf n h
  obtain ⟨byte, behind, rfl, -, hpoint, hexponent⟩ := h.not_digit
  have hplain : (some byte).any isExponent = false := hexponent
  rw [readNumber, bind_of_ok hwhole, hscaled]
  simp only [bind_of_ok (next?_cons byte behind), Option.some.injEq, if_neg hpoint, hplain]
  rfl

/-- A number of sixty-four bits is read back. -/
theorem natural_readsBack (n : UInt64) : ReadsBack natural (digitsOf n.toNat) n := by
  obtain ⟨first, more, hdigits⟩ : ∃ first more, digitsOf n.toNat = first :: more := by
    obtain hzero | ⟨first, more, hdigits, -⟩ := digitsOf_cases n.toNat
    · exact ⟨0x30, [], hzero⟩
    · exact ⟨first, more, hdigits⟩
  have hfirst : isDigit first = true := isDigit_of_mem (n := n.toNat) (by rw [hdigits]; exact List.mem_cons_self)
  have hbyte : ∀ n < 256, isDigit (UInt8.ofNat n) = true → Begins (UInt8.ofNat n) ∧ UInt8.ofNat n ≠ minus := by
    decide +kernel
  obtain ⟨hbegins, hminus⟩ : Begins first ∧ first ≠ minus := by
    simpa using hbyte first.toNat first.toNat_lt (by simpa using hfirst)
  refine ⟨⟨first, more, hdigits, hbegins⟩, fun rest hrest ↦ ?_⟩
  have hnumber := readNumber_digitsOf n.toNat_lt hrest
  rw [hdigits, List.cons_append] at hnumber ⊢
  refine value_of_ok hbegins.1 ?_
  simp only [if_neg hminus, hfirst, if_true]
  have hword : n.toNat.toUInt64 = n := UInt64.ofNat_toNat
  rw [bind_of_ok hnumber, hword]
  rfl

/-! ## Values that may be missing, and lists -/

theorem ReadsBack.optional (h : ReadsBack read written value) (hnull : written.head? ≠ some wordNull.1) :
    ReadsBack (optional read) written (some value) := by
  refine ⟨h.begins, fun rest hrest ↦ ?_⟩
  obtain ⟨first, more, rfl, hbegins⟩ := h.begins
  have hread := h.read rest hrest
  rw [List.cons_append] at hread ⊢
  rw [Json.optional, bind_of_ok (solid?_cons hbegins.1 _)]
  change some first ≠ some wordNull.1 at hnull
  rw [if_neg hnull, bind_of_ok hread]
  rfl

/-- A value that is missing is read back as missing. -/
theorem nothing_readsBack (read : Reader α) :
    ReadsBack (optional read) (wordNull.1 :: wordNull.2) none :=
  ⟨⟨_, _, rfl, by decide⟩, fun _ _ ↦ rfl⟩

theorem separated_cons (part : Bytes) (parts : List Bytes) :
    separated (part :: parts) = part ++ parts.flatMap (comma :: ·) := by
  induction parts generalizing part with
  | nil => simp [separated]
  | cons next parts ih => 
    rw [separated, ih next, List.flatMap_cons, List.cons_append]
    exact nofun

theorem length_le_flatMap (parts : List Bytes) : parts.length ≤ (parts.flatMap (comma :: ·)).length := by
  induction parts with
  | nil => exact Nat.le_refl 0
  | cons part parts ih =>
    rw [List.flatMap_cons, List.length_append, List.length_cons, List.length_cons]
    omega

/-- Every part but the first has a comma in front of it. -/
theorem length_le_separated (parts : List Bytes) : parts.length ≤ (separated parts).length + 1 := by
  cases parts with
  | nil => exact Nat.zero_le _
  | cons part parts =>
    have hparts := length_le_flatMap parts
    rw [separated_cons, List.length_append, List.length_cons]
    omega

/-- What follows is delimited, be it another part or the end. -/
theorem delimited_flatMap (parts : List Bytes) (h : Delimited rest) :
    Delimited (parts.flatMap (comma :: ·) ++ rest) := by
  cases parts with
  | nil => exact h
  | cons part parts => exact .comma _

theorem hasItem_end (isFirst : Bool) (rest : Bytes) :
    hasItem isFirst (closeList :: rest) = (.ok false, closeList :: rest) := rfl

theorem hasItem_first {first : UInt8} (h : Begins first) (rest : Bytes) :
    hasItem true (first :: rest) = (.ok true, first :: rest) := by
  rw [hasItem, bind_of_ok (solid?_cons h.1 rest)]
  simp only [if_neg h.2.1, if_true]
  rfl

theorem hasItem_next {first : UInt8} (h : Begins first) (rest : Bytes) :
    hasItem false (comma :: first :: rest) = (.ok true, first :: rest) := by
  have hcomma : comma ≠ closeList := by decide
  rw [hasItem, bind_of_ok (solid?_cons (by decide) _)]
  simp only [if_neg hcomma, Bool.false_eq_true, if_false, if_true]
  rw [bind_of_ok (advance_cons _ _), bind_of_ok (solid?_cons h.1 rest)]
  simp only [if_neg h.2.1]
  rfl

/-- Items behind others are read up to the end of the list. -/
theorem itemsOnto_written {parts : List Bytes} {values : List α} (h : List.Forall₂ (ReadsBack read) parts values)
    {limit : Nat} (hlimit : parts.length < limit) (items : List α) (rest : Bytes) :
    itemsOnto read limit false items (parts.flatMap (comma :: ·) ++ closeList :: rest) =
      (.ok (items.reverse ++ values), closeList :: rest) := by
  induction h generalizing limit items with
  | nil =>
    obtain ⟨limit, rfl⟩ := Nat.exists_eq_add_one.2 hlimit
    rw [itemsOnto, List.flatMap_nil, List.nil_append, bind_of_ok (hasItem_end false rest), List.append_nil]
    rfl
  | @cons part value parts values hvalue _ ih =>
    obtain ⟨limit, rfl⟩ := Nat.exists_eq_add_one.2 (Nat.lt_of_le_of_lt (Nat.zero_le _) hlimit)
    have hmore := ih (Nat.lt_of_succ_lt_succ hlimit) (value :: items)
    have hread := hvalue.read _ (delimited_flatMap parts (.closeList rest))
    obtain ⟨first, more, rfl, hbegins⟩ := hvalue.begins
    simp only [List.flatMap_cons, List.cons_append, List.append_assoc] at hread ⊢
    rw [itemsOnto, bind_of_ok (hasItem_next hbegins _), if_pos rfl, bind_of_ok hread, hmore,
      List.reverse_cons, List.append_assoc]
    rfl

/-- A list is read back when each of its items is. -/
theorem list_readsBack {parts : List Bytes} {values : List α} (h : List.Forall₂ (ReadsBack read) parts values) :
    ReadsBack (list read) (writtenList parts) values := by
  refine ⟨⟨openList, _, rfl, by decide⟩, fun rest hrest ↦ ?_⟩
  have hwritten : writtenList parts ++ rest = openList :: (separated parts ++ closeList :: rest) := by
    simp [writtenList]
  rw [hwritten]
  refine value_of_ok (by decide) ?_
  rw [if_pos rfl, bind_of_ok (advance_cons _ _)]
  have hitems : itemsOnto read ((separated parts ++ closeList :: rest).length + 1) true []
      (separated parts ++ closeList :: rest) = (.ok values, closeList :: rest) := by
    cases h with
    | nil =>
      rw [itemsOnto, separated, List.nil_append, bind_of_ok (hasItem_end true rest)]
      rfl
    | @cons part value parts values hvalue hmore =>
      have hread := hvalue.read _ (delimited_flatMap parts (.closeList rest))
      obtain ⟨first, more, rfl, hbegins⟩ := hvalue.begins
      have hlimit : parts.length < (separated ((first :: more) :: parts) ++ closeList :: rest).length := by
        have hparts := length_le_separated ((first :: more) :: parts)
        rw [List.length_cons] at hparts
        rw [List.length_append, List.length_cons]
        omega
      have hitems := itemsOnto_written hmore hlimit [value] rest
      rw [itemsOnto]
      simp only [separated_cons, List.cons_append, List.append_assoc] at hread hitems ⊢
      rw [bind_of_ok (hasItem_first hbegins _), if_pos rfl, bind_of_ok hread, hitems]
      rfl
  exact closedBy_of_ok hitems rfl

end FleetAgent.Json
