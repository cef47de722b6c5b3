import FleetAgent.Proofs.OwnFrames
import Mathlib.Data.List.Basic
import Mathlib.Data.List.Induction

/-!
# The secrets that are keys

A secret gives a key if what is left of it without the blanks around it are thirty-two or sixty-four
hexadecimal digits. Only digits have the bytes of digits, so it makes no difference that the bytes of the
text are looked at and not its characters. The key depends on the values of the digits, which are the same
in both cases; any other text is refused for the first reason that there is.
-/

namespace FleetAgent

namespace Text

/-! ## Stripping -/

/-- Blanks alone are stripped. -/
theorem exists_stripChars (chars : List Char) :
    ∃ before after, chars = before ++ (stripChars chars ++ after) ∧ (∀ c ∈ before, isBlank c) ∧
      ∀ c ∈ after, isBlank c := by
  let kept := chars.dropWhile isBlank
  refine ⟨chars.takeWhile isBlank, (kept.reverse.takeWhile isBlank).reverse, ?_, ?_, ?_⟩
  · calc
      chars = chars.takeWhile isBlank ++ kept.reverse.reverse := by
        rw [List.reverse_reverse, List.takeWhile_append_dropWhile]
      _ = chars.takeWhile isBlank ++
          (kept.reverse.takeWhile isBlank ++ kept.reverse.dropWhile isBlank).reverse := by
        rw [List.takeWhile_append_dropWhile]
      _ = _ := by rw [List.reverse_append, stripChars]
  · exact fun c hc ↦ List.all_eq_true.1 List.all_takeWhile c hc
  · exact fun c hc ↦ List.all_eq_true.1 List.all_takeWhile c (List.mem_reverse.1 hc)

theorem dropWhile_blanks {before digits : List Char} (hbefore : ∀ c ∈ before, isBlank c)
    (hdigits : ∀ c ∈ digits, isBlank c = false) (hne : digits ≠ []) (after : List Char) :
    (before ++ (digits ++ after)).dropWhile isBlank = digits ++ after := by
  obtain ⟨first, rest, rfl⟩ := List.exists_cons_of_ne_nil hne
  rw [List.dropWhile_append_of_pos hbefore, List.cons_append, List.dropWhile_cons_of_neg]
  rw [hdigits first List.mem_cons_self]
  exact Bool.false_ne_true

/-- All blanks around are stripped. -/
theorem stripChars_around {before digits after : List Char} (hbefore : ∀ c ∈ before, isBlank c)
    (hafter : ∀ c ∈ after, isBlank c) (hdigits : ∀ c ∈ digits, isBlank c = false) (hne : digits ≠ []) :
    stripChars (before ++ (digits ++ after)) = digits := by
  have hback : (after.reverse ++ (digits.reverse ++ [])).dropWhile isBlank = digits.reverse ++ [] :=
    dropWhile_blanks (by simpa using hafter) (by simpa using hdigits) (by simpa using hne) []
  rw [stripChars, dropWhile_blanks hbefore hdigits hne, List.reverse_append]
  rw [List.append_nil] at hback
  rw [hback, List.reverse_reverse]

/-! ## Bytes of a text -/

theorem toListLoop_eq (bytes : ByteArray) (index : Nat) (read : List UInt8) :
    ByteArray.toList.loop bytes index read = read.reverse ++ bytes.data.toList.drop index := by
  fun_induction ByteArray.toList.loop bytes index read with
  | case1 index read hindex ih =>
    have hlength : index < bytes.data.toList.length := by simpa using hindex
    have hbyte : bytes.get! index = bytes.data.toList[index] := by
      rw [ByteArray.get!, getElem!_pos bytes.data index hindex, Array.getElem_toList]
    calc
      ByteArray.toList.loop bytes (index + 1) (bytes.get! index :: read) =
          (bytes.get! index :: read).reverse ++ bytes.data.toList.drop (index + 1) := ih
      _ = read.reverse ++ bytes.get! index :: bytes.data.toList.drop (index + 1) := by
        rw [List.reverse_cons, List.append_assoc, List.singleton_append]
      _ = _ := by rw [hbyte, List.drop_eq_getElem_cons hlength]
  | case2 index read hindex =>
    have hend : bytes.data.toList.length ≤ index := by simpa using Nat.le_of_not_lt hindex
    rw [List.drop_eq_nil_of_le hend, List.append_nil]

theorem toList_eq_data (bytes : ByteArray) : bytes.toList = bytes.data.toList :=
  toListLoop_eq bytes 0 []

/-- The bytes of a text are the encodings of its characters, one behind the other. -/
theorem toList_toUTF8 (text : String) : text.toUTF8.toList = text.toList.flatMap String.utf8EncodeChar := by
  have hencode : text.toByteArray = text.toList.utf8Encode := String.utf8Encode_toList.symm
  rw [toList_eq_data, String.toUTF8_eq_toByteArray, hencode, List.utf8Encode, List.toList_data_toByteArray]

namespace Hex

/-! ## Digits -/

def digits : List Char :=
  ['0', '1', '2', '3', '4', '5', '6', '7', '8', '9', 'a', 'b', 'c', 'd', 'e', 'f', 'A', 'B', 'C', 'D', 'E', 'F']

def IsDigit (byte : UInt8) : Prop := Char.ofNat byte.toNat ∈ digits

instance (byte : UInt8) : Decidable (IsDigit byte) := inferInstanceAs (Decidable (_ ∈ _))

def byteOf (c : Char) : UInt8 := UInt8.ofNat c.toNat

theorem isSome_digit?_iff {byte : UInt8} : (digit? byte).isSome ↔ IsDigit byte := by
  have hall : ∀ n < 256, (digit? (UInt8.ofNat n)).isSome ↔ IsDigit (UInt8.ofNat n) := by decide +kernel
  simpa using hall byte.toNat byte.toNat_lt

/-- A character of ASCII takes one byte. -/
theorem utf8EncodeChar_of_le {c : Char} (h : c.toNat ≤ 127) : String.utf8EncodeChar c = [byteOf c] := by
  unfold String.utf8EncodeChar
  exact if_pos h

theorem toNat_le_of_mem {c : Char} (h : c ∈ digits) : c.toNat ≤ 127 := by
  -- As a test of the list itself this is decided over the digits and not over all characters.
  have hall : digits.all (fun c ↦ decide (c.toNat ≤ 127)) = true := by decide
  exact of_decide_eq_true (List.all_eq_true.1 hall c h)

/-- The value of a digit is the same in both cases. -/
theorem digit?_toLower {c : Char} (h : c ∈ digits) : digit? (byteOf c.toLower) = digit? (byteOf c) := by
  have hall : digits.all (fun c ↦ digit? (byteOf c.toLower) == digit? (byteOf c)) = true := by decide
  exact eq_of_beq (List.all_eq_true.1 hall c h)

theorem isBlank_of_mem {c : Char} (h : c ∈ digits) : isBlank c = false := by
  have hall : digits.all (fun c ↦ !isBlank c) = true := by decide
  exact Bool.not_eq_true' _ ▸ List.all_eq_true.1 hall c h

theorem le_of_isDigit {byte : UInt8} (h : IsDigit byte) : byte.toNat ≤ 127 := by
  have hvalid : byte.toNat.isValidChar := .inl (Nat.lt_trans byte.toNat_lt (by decide))
  have hcode := toNat_le_of_mem h
  rw [Char.ofNat, dif_pos hvalid] at hcode
  exact hcode

theorem isDigit_byteOf {c : Char} (h : c.toNat ≤ 127) : IsDigit (byteOf c) ↔ c ∈ digits := by
  have hsame : (byteOf c).toNat = c.toNat := by
    rw [byteOf, UInt8.toNat_ofNat']
    exact Nat.mod_eq_of_lt (by omega)
  rw [IsDigit, hsame, Char.ofNat_toNat]

/-- A character of several bytes begins with a byte that no digit has. -/
theorem exists_high_byte {c : Char} (h : ¬ c.toNat ≤ 127) :
    ∃ byte ∈ String.utf8EncodeChar c, 127 < byte.toNat := by
  have hcode : ¬ c.val.toNat ≤ 127 := h
  unfold String.utf8EncodeChar
  dsimp only
  rw [if_neg hcode]
  split
  · refine ⟨_, List.mem_cons_self, ?_⟩
    rw [UInt8.toNat_ofNat']
    omega
  · split
    · refine ⟨_, List.mem_cons_self, ?_⟩
      rw [UInt8.toNat_ofNat']
      omega
    · refine ⟨_, List.mem_cons_self, ?_⟩
      rw [UInt8.toNat_ofNat']
      omega

/-- A character is a digit if all its bytes are. -/
theorem isDigit_utf8EncodeChar_iff {c : Char} : (∀ byte ∈ String.utf8EncodeChar c, IsDigit byte) ↔ c ∈ digits := by
  by_cases hc : c.toNat ≤ 127
  · rw [utf8EncodeChar_of_le hc, List.forall_mem_singleton, isDigit_byteOf hc]
  · obtain ⟨byte, hbyte, hhigh⟩ := exists_high_byte hc
    refine iff_of_false (fun hdigits ↦ ?_) fun hdigit ↦ hc (toNat_le_of_mem hdigit)
    exact absurd (le_of_isDigit (hdigits byte hbyte)) (Nat.not_le.2 hhigh)

/-! ## Digits in pairs -/

/-- The bytes that pairs of values give. -/
def joined : List UInt8 → List UInt8
  | high :: low :: rest => (high * 16 + low) :: joined rest
  | _ => []

theorem length_joined (values : List UInt8) : (joined values).length = values.length / 2 := by
  induction values using List.twoStepInduction with
  | nil => rfl
  | singleton value => simp [joined]
  | cons_cons high low rest ih _ =>
    rw [joined, List.length_cons, List.length_cons, List.length_cons, ih]
    omega

/-- Every digit has a value, so two of them are a byte. -/
theorem length_joined_filterMap {bytes : List UInt8} (h : ∀ byte ∈ bytes, IsDigit byte) :
    (joined (bytes.filterMap digit?)).length = bytes.length / 2 := by
  have hvalues : (bytes.filterMap digit?).length = bytes.length :=
    List.filterMap_length_eq_length.2 fun byte hbyte ↦ isSome_digit?_iff.2 (h byte hbyte)
  rw [length_joined, hvalues]

theorem exists_digit? {byte : UInt8} (h : IsDigit byte) : ∃ value, digit? byte = some value :=
  Option.isSome_iff_exists.1 (isSome_digit?_iff.2 h)

/-- Two digits give one byte, whatever comes behind them. -/
theorem readPairs_cons_cons {high low first second : UInt8} (hhigh : digit? high = some first)
    (hlow : digit? low = some second) (index : Nat) (rest : List UInt8) :
    readPairs index (high :: low :: rest) = (readPairs (index + 2) rest).map ((first * 16 + second) :: ·) := by
  rw [readPairs]
  simp only [hhigh, hlow]

/-- Nothing but digits is read to the end. -/
theorem readPairs_of_digits {text : List UInt8} (h : ∀ byte ∈ text, IsDigit byte) (index : Nat) :
    readPairs index text = .ok (joined (text.filterMap digit?)) := by
  induction text using List.twoStepInduction generalizing index with
  | nil => rfl
  | singleton byte =>
    obtain ⟨value, hvalue⟩ := exists_digit? (h byte List.mem_cons_self)
    rw [List.filterMap_cons_some hvalue]
    rfl
  | cons_cons high low rest ih _ =>
    rw [List.forall_mem_cons, List.forall_mem_cons] at h
    obtain ⟨hhigh, hlow, hrest⟩ := h
    obtain ⟨first, hfirst⟩ := exists_digit? hhigh
    obtain ⟨second, hsecond⟩ := exists_digit? hlow
    rw [readPairs_cons_cons hfirst hsecond, ih hrest, List.filterMap_cons_some hfirst,
      List.filterMap_cons_some hsecond]
    rfl

/-- The first byte that is no digit is the one that is told. -/
theorem readPairs_of_fault {before after : List UInt8} {byte : UInt8} (hbefore : ∀ digit ∈ before, IsDigit digit)
    (hbyte : ¬ IsDigit byte) (heven : (before ++ byte :: after).length % 2 = 0) (index : Nat) :
    readPairs index (before ++ byte :: after) = .error (.notADigit byte (index + before.length)) := by
  have hnone : digit? byte = none := by
    rw [← Option.not_isSome_iff_eq_none, isSome_digit?_iff]
    exact hbyte
  induction before using List.twoStepInduction generalizing index with
  | nil =>
    cases after with
    | nil => cases heven
    | cons low rest => simp only [List.nil_append, readPairs, hnone, List.length_nil, Nat.add_zero]
  | singleton high =>
    obtain ⟨value, hvalue⟩ := exists_digit? (hbefore high List.mem_cons_self)
    simp only [List.cons_append, List.nil_append, readPairs, hnone, hvalue, List.length_singleton]
  | cons_cons high low rest ih _ =>
    rw [List.forall_mem_cons, List.forall_mem_cons] at hbefore
    obtain ⟨hhigh, hlow, hrest⟩ := hbefore
    obtain ⟨first, hfirst⟩ := exists_digit? hhigh
    obtain ⟨second, hsecond⟩ := exists_digit? hlow
    have hshorter : (rest ++ byte :: after).length % 2 = 0 := by
      simp only [List.cons_append, List.length_cons] at heven
      omega
    rw [List.cons_append, List.cons_append, readPairs_cons_cons hfirst hsecond, ih hrest hshorter]
    simp only [Except.map, List.length_cons]
    congr 2
    omega

/-! ## Reading a text -/

theorem toList_of_digits {text : String} (h : ∀ c ∈ text.toList, c ∈ digits) :
    text.toUTF8.toList = text.toList.map byteOf := by
  have hbytes : text.toList.map String.utf8EncodeChar = text.toList.map fun c ↦ [byteOf c] :=
    List.map_congr_left fun c hc ↦ utf8EncodeChar_of_le (toNat_le_of_mem (h c hc))
  calc
    text.toUTF8.toList = (text.toList.map String.utf8EncodeChar).flatten := by
      rw [toList_toUTF8, List.flatMap_def]
    _ = (text.toList.map fun c ↦ [byteOf c]).flatten := by rw [hbytes]
    _ = text.toList.map byteOf := by rw [← List.flatMap_def, ← List.map_eq_flatMap]

/-- A text has the bytes of digits just when its characters are digits. -/
theorem isDigit_toUTF8_iff {text : String} :
    (∀ byte ∈ text.toUTF8.toList, IsDigit byte) ↔ ∀ c ∈ text.toList, c ∈ digits := by
  rw [toList_toUTF8, List.forall_mem_flatMap]
  exact forall₂_congr fun c _ ↦ isDigit_utf8EncodeChar_iff

/-- Nothing but digits, or a first byte that is none. -/
theorem digits_or_fault (bytes : List UInt8) :
    (∀ byte ∈ bytes, IsDigit byte) ∨ ∃ before byte after, bytes = before ++ byte :: after ∧
      (∀ digit ∈ before, IsDigit digit) ∧ ¬ IsDigit byte := by
  have hsplit : bytes.takeWhile (IsDigit ·) ++ bytes.dropWhile (IsDigit ·) = bytes :=
    List.takeWhile_append_dropWhile
  have hbefore : ∀ digit ∈ bytes.takeWhile (IsDigit ·), IsDigit digit := fun digit hdigit ↦ by
    simpa using List.all_eq_true.1 List.all_takeWhile digit hdigit
  have hhead := List.head?_dropWhile_not (IsDigit ·) bytes
  cases hrest : bytes.dropWhile (IsDigit ·) with
  | nil =>
    rw [hrest, List.append_nil] at hsplit
    rw [hsplit] at hbefore
    exact .inl hbefore
  | cons byte after =>
    rw [hrest] at hsplit hhead
    exact .inr ⟨_, byte, after, hsplit.symm, hbefore, by simpa using hhead⟩

theorem read_of_digits {bytes : List UInt8} (heven : bytes.length % 2 = 0) (h : ∀ byte ∈ bytes, IsDigit byte) :
    read bytes = .ok (joined (bytes.filterMap digit?)) := by
  rw [read, if_neg (by omega), readPairs_of_digits h]

theorem read_of_fault {before after : List UInt8} {byte : UInt8}
    (heven : (before ++ byte :: after).length % 2 = 0) (hbefore : ∀ digit ∈ before, IsDigit digit)
    (hbyte : ¬ IsDigit byte) :
    read (before ++ byte :: after) = .error (.notADigit byte before.length) := by
  rw [read, if_neg (by omega), readPairs_of_fault hbefore hbyte heven, Nat.zero_add]

end Hex

end Text

namespace Codec.Key

open Text

variable {key other : Key} {secret : String}

/-- The characters are the digits of sixteen or of thirty-two bytes. -/
@[mk_iff]
structure Spelled (chars : List Char) : Prop where
  digits : ∀ c ∈ chars, c ∈ Hex.digits
  length : chars.length = 32 ∨ chars.length = 64

/-- What is said of a text that gives no key, by the first of the reasons that there are. -/
inductive Refusal (bytes : List UInt8) : String → Prop where
  | oddLength (hodd : bytes.length % 2 = 1) : Refusal bytes "secret is not valid hex: Odd number of digits"
  | notADigit (heven : bytes.length % 2 = 0) {before after : List UInt8} {byte : UInt8}
      (hbytes : bytes = before ++ byte :: after) (hbefore : ∀ digit ∈ before, Hex.IsDigit digit)
      (hbyte : ¬ Hex.IsDigit byte) :
      Refusal bytes ("secret is not valid hex: " ++ ("Invalid character " ++
        quotedChar (Char.ofNat byte.toNat) ++ " at position " ++ toString before.length))
  | wrongLength (heven : bytes.length % 2 = 0) (hdigits : ∀ byte ∈ bytes, Hex.IsDigit byte)
      (hlength : ¬ (bytes.length = 32 ∨ bytes.length = 64)) :
      Refusal bytes ("secret must be 16 or 32 bytes, got " ++ toString (bytes.length / 2))

def spelledBytes (chars : List Char) : List UInt8 :=
  Hex.joined (chars.filterMap fun c ↦ Hex.digit? (Hex.byteOf c))

/-- A text for which there is a reason to be refused spells no key. -/
theorem Refusal.not_spelled {text reason : String} (h : Refusal text.toUTF8.toList reason) :
    ¬ Spelled text.toList := by
  rintro ⟨hdigits, hlength⟩
  have hbytes : text.toUTF8.toList.length = text.toList.length := by
    rw [Hex.toList_of_digits hdigits, List.length_map]
  cases h with
  | oddLength hodd => omega
  | notADigit heven hsplit hbefore hbyte =>
    apply hbyte
    apply Hex.isDigit_toUTF8_iff.2 hdigits
    rw [hsplit]
    exact List.mem_append_right _ List.mem_cons_self
  | wrongLength heven hall hwrong => exact hwrong (hbytes ▸ hlength)

/-- Digits in an even number are read as the bytes that they stand for, half as many. -/
theorem read_of_spelling {text : String} (heven : text.toUTF8.toList.length % 2 = 0)
    (hdigits : ∀ byte ∈ text.toUTF8.toList, Hex.IsDigit byte) :
    Hex.read text.toUTF8.toList = .ok (spelledBytes text.toList) ∧
      (spelledBytes text.toList).length = text.toUTF8.toList.length / 2 := by
  have hvalues : text.toUTF8.toList.filterMap Hex.digit? =
      text.toList.filterMap fun c ↦ Hex.digit? (Hex.byteOf c) := by
    rw [Hex.toList_of_digits (Hex.isDigit_toUTF8_iff.1 hdigits), List.filterMap_map]
    rfl
  constructor
  · rw [Hex.read_of_digits heven hdigits, hvalues, spelledBytes]
  · rw [spelledBytes, ← hvalues, Hex.length_joined_filterMap hdigits]

/-- A secret gives the key of the bytes that it spells, or is refused. -/
theorem ofSecret_cases (secret : String) :
    (Spelled (strip secret).toList ∧
        ofSecret secret = .ok (derive (spelledBytes (strip secret).toList))) ∨
      ∃ fault, ofSecret secret = .error fault ∧ Refusal (strip secret).toUTF8.toList fault.message := by
  unfold ofSecret
  generalize strip secret = text
  by_cases hodd : text.toUTF8.toList.length % 2 = 1
  · rw [Hex.read, if_pos hodd]
    exact .inr ⟨_, rfl, .oddLength hodd⟩
  have heven : text.toUTF8.toList.length % 2 = 0 := by omega
  rcases Hex.digits_or_fault text.toUTF8.toList with hdigits | ⟨before, byte, after, hbytes, hbefore, hbyte⟩
  · obtain ⟨hread, hlength⟩ := read_of_spelling heven hdigits
    have hchars := Hex.isDigit_toUTF8_iff.1 hdigits
    have hsize : text.toUTF8.toList.length = text.toList.length := by
      rw [Hex.toList_of_digits hchars, List.length_map]
    rw [hread]
    by_cases hfits : text.toUTF8.toList.length = 32 ∨ text.toUTF8.toList.length = 64
    · refine .inl ⟨⟨hchars, hsize ▸ hfits⟩, ?_⟩
      dsimp only
      rw [if_pos (by omega)]
    · refine .inr ⟨.wrongLength (spelledBytes text.toList).length, ?_, ?_⟩
      · dsimp only
        rw [if_neg (by omega)]
      · rw [hlength]
        exact .wrongLength heven hdigits hfits
  · rw [hbytes] at heven ⊢
    rw [Hex.read_of_fault heven hbefore hbyte]
    exact .inr ⟨_, rfl, .notADigit heven rfl hbefore hbyte⟩

/-- A secret gives a key just when it spells sixteen or thirty-two bytes, apart from blanks around it. -/
theorem ofSecret_eq_ok_iff :
    ofSecret secret = .ok key ↔
      Spelled (strip secret).toList ∧ key = derive (spelledBytes (strip secret).toList) := by
  rcases ofSecret_cases secret with ⟨hspelled, hkey⟩ | ⟨fault, hfault, hrefusal⟩
  · rw [hkey, Except.ok.injEq, eq_comm]
    exact (and_iff_right hspelled).symm
  · rw [hfault]
    refine iff_of_false ?_ fun h ↦ hrefusal.not_spelled h.1
    rintro ⟨⟩

/-- The digits are what stands between blanks. -/
theorem spelled_strip_iff :
    Spelled (strip secret).toList ↔ ∃ before digits after, secret.toList = before ++ (digits ++ after) ∧
      (∀ c ∈ before, isBlank c) ∧ (∀ c ∈ after, isBlank c) ∧ Spelled digits := by
  rw [strip_toList]
  constructor
  · intro hspelled
    obtain ⟨before, after, hsplit, hbefore, hafter⟩ := exists_stripChars secret.toList
    exact ⟨before, _, after, hsplit, hbefore, hafter, hspelled⟩
  · rintro ⟨before, digits, after, hsplit, hbefore, hafter, hspelled⟩
    have hne : digits ≠ [] := by
      rintro rfl
      rcases hspelled.length with h | h <;> cases h
    rw [hsplit, stripChars_around hbefore hafter (fun c hc ↦ Hex.isBlank_of_mem (hspelled.digits c hc)) hne]
    exact hspelled

/-- Capitals among the digits make no difference to the bytes. -/
theorem spelledBytes_map_toLower {chars : List Char} (h : Spelled chars) :
    spelledBytes (chars.map Char.toLower) = spelledBytes chars := by
  rw [spelledBytes, spelledBytes, List.filterMap_map]
  congr 1
  exact List.filterMap_congr fun c hc ↦ Hex.digit?_toLower (h.digits c hc)

/-- Secrets that differ in case alone are the same key. -/
theorem eq_of_lowerAscii_eq {second : String} (hkey : ofSecret secret = .ok key)
    (hother : ofSecret second = .ok other) (hcase : lowerAscii (strip secret) = lowerAscii (strip second)) :
    other = key := by
  obtain ⟨hspelled, rfl⟩ := ofSecret_eq_ok_iff.1 hkey
  obtain ⟨hsecond, rfl⟩ := ofSecret_eq_ok_iff.1 hother
  have hlower : (strip secret).toList.map Char.toLower = (strip second).toList.map Char.toLower :=
    String.ofList_injective hcase
  rw [← spelledBytes_map_toLower hspelled, ← spelledBytes_map_toLower hsecond, hlower]

/-- Thirty-two or sixty-four digits between blanks are a key. Keys of secrets that are the same but for the case
of their digits read each other's frames, and what is no key is refused for the first reason that there is. -/
theorem secret_decides_key (secret : String) :
    ((∃ key, ofSecret secret = .ok key) ↔
      ∃ before digits after, secret.toList = before ++ (digits ++ after) ∧ (∀ c ∈ before, isBlank c) ∧
        (∀ c ∈ after, isBlank c) ∧ (∀ c ∈ digits, c ∈ Hex.digits) ∧
          (digits.length = 32 ∨ digits.length = 64)) ∧
    (∀ second key other, ofSecret secret = .ok key → ofSecret second = .ok other →
      lowerAscii (strip secret) = lowerAscii (strip second) →
        other.fingerprint = key.fingerprint ∧
          ∀ nonce payload bytes : List UInt8, nonce.length = 12 →
            (key.encode nonce payload = .ok bytes → other.decode bytes = .ok payload) ∧
            (other.encode nonce payload = .ok bytes → key.decode bytes = .ok payload)) ∧
    ∀ fault, ofSecret secret = .error fault → Refusal (strip secret).toUTF8.toList fault.message := by
  refine ⟨?_, ?_, ?_⟩
  · calc
      (∃ key, ofSecret secret = .ok key) ↔ Spelled (strip secret).toList := by
        simp only [ofSecret_eq_ok_iff, exists_and_left, exists_eq, and_true]
      _ ↔ _ := spelled_strip_iff
      _ ↔ _ := by simp only [spelled_iff]
  · intro second key other hkey hother hcase
    obtain rfl := eq_of_lowerAscii_eq hkey hother hcase
    have hid := length_id_of_ofSecret hkey
    exact ⟨rfl, fun nonce payload bytes hnonce ↦ ⟨decode_encode hid hnonce, decode_encode hid hnonce⟩⟩
  · intro fault hfault
    rcases ofSecret_cases secret with ⟨-, hkey⟩ | ⟨told, htold, hrefusal⟩
    · cases hkey.symm.trans hfault
    · cases htold.symm.trans hfault
      exact hrefusal

/-- Neither blanks nor capitals make another key. An accented letter is named by its first byte. -/
theorem capitals_decide_nothing :
    (∃ key other, ofSecret "\u200300112233445566778899AABBCCDDEEFF\n" = .ok key ∧
      ofSecret "00112233445566778899aabbccddeeff" = .ok other ∧ other.fingerprint = key.fingerprint) ∧
    Refusal (strip " 0é1 ").toUTF8.toList "secret is not valid hex: Invalid character 'Ã' at position 1" := by
  have hcapitals : ofSecret "\u200300112233445566778899AABBCCDDEEFF\n" = .ok (derive secretBytes) :=
    ofSecret_of_read (by decide +kernel) (.inl rfl)
  have hsmall : ofSecret "00112233445566778899aabbccddeeff" = .ok (derive secretBytes) :=
    ofSecret_of_read (by decide +kernel) (.inl rfl)
  have haccent : ofSecret " 0é1 " = .error (.notHex (.notADigit 0xc3 1)) := by
    have hread : Hex.read (strip " 0é1 ").toUTF8.toList = .error (.notADigit 0xc3 1) := by decide +kernel
    rw [ofSecret, hread]
  have htold : (KeyFault.notHex (.notADigit 0xc3 1)).message =
      "secret is not valid hex: Invalid character 'Ã' at position 1" := by decide +kernel
  obtain ⟨-, hsame, -⟩ := secret_decides_key "\u200300112233445566778899AABBCCDDEEFF\n"
  obtain ⟨-, -, hrefused⟩ := secret_decides_key " 0é1 "
  exact ⟨⟨_, _, hcapitals, hsmall, (hsame _ _ _ hcapitals hsmall (by decide +kernel)).1⟩, htold ▸ hrefused _ haccent⟩

end Codec.Key

end FleetAgent
