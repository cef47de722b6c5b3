import FleetAgent.Codec.Frame
import Mathlib.Data.List.TakeDrop

/-!
# A key reads its own frames and no others

Combining a text with the key stream twice gives the text back, and the tag behind a hidden text is
computed from just that hidden text. So a frame with a given nonce and payload is read as that payload,
and a text of bytes that is read at all is, byte for byte, the frame of what was read from it.
-/

namespace FleetAgent

namespace Cipher

namespace ChaCha20

theorem zipWith_xor_twice {text stream : List UInt8} (h : text.length ≤ stream.length) :
    List.zipWith (· ^^^ ·) (List.zipWith (· ^^^ ·) text stream) stream = text := by
  induction text generalizing stream with
  | nil => rfl
  | cons byte rest ih =>
    cases stream with
    | nil => exact absurd h (by simp)
    | cons key stream =>
      have hrest : rest.length ≤ stream.length := Nat.le_of_succ_le_succ h
      simp only [List.zipWith_cons_cons, ih hrest, UInt8.xor_assoc, UInt8.xor_self, UInt8.xor_zero]

/-- The stream that a text is combined with depends on nothing of the text but its length. -/
theorem crypt_crypt (key nonce text : List UInt8) : crypt key nonce (crypt key nonce text) = text := by
  have hlength : (crypt key nonce text).length = text.length := length_crypt key nonce text
  have hstream : text.length ≤ (blocksFrom key nonce 1 (text.length / 64 + 1)).length := by
    rw [length_blocksFrom]
    omega
  rw [crypt, hlength, crypt]
  exact zipWith_xor_twice hstream

end ChaCha20

namespace Sealing

variable {key nonce text sealed : List UInt8}

/-- A tag always takes sixteen bytes. -/
theorem length_tagOf (key nonce hidden : List UInt8) : (tagOf key nonce hidden).length = tagSize :=
  Poly1305.length_tag _ _

theorem tooLong_crypt (key nonce text : List UInt8) :
    tooLong (ChaCha20.crypt key nonce text) = tooLong text := by
  rw [tooLong, tooLong, ChaCha20.length_crypt]

/-- Only the tag of the hidden text opens it. -/
theorem open?_append {hidden tag : List UInt8} (htag : tag.length = tagSize) :
    open? key nonce (hidden ++ tag) =
      if tooLong hidden = true ∨ tag ≠ tagOf key nonce hidden then none
      else some (ChaCha20.crypt key nonce hidden) := by
  have hsize : (hidden ++ tag).length - tagSize = hidden.length := by
    rw [List.length_append, htag, Nat.add_sub_cancel]
  have hleast : ¬ (hidden ++ tag).length < tagSize := by
    rw [List.length_append]
    omega
  rw [open?, hsize, List.take_left, List.drop_left]
  simp only [hleast, false_or]

def sealedForm (key nonce text : List UInt8) : List UInt8 :=
  ChaCha20.crypt key nonce text ++ tagOf key nonce (ChaCha20.crypt key nonce text)

theorem length_sealedForm (key nonce text : List UInt8) :
    (sealedForm key nonce text).length = text.length + tagSize := by
  rw [sealedForm, List.length_append, ChaCha20.length_crypt, length_tagOf]

/-- A text that is not too long is sealed as its hidden form with the tag behind it. -/
theorem close?_eq (h : tooLong text = false) : close? key nonce text = some (sealedForm key nonce text) := by
  simp only [close?, h, Bool.false_eq_true, if_false, sealedForm]

/-- What was sealed is opened again under the same key and nonce. -/
theorem open?_sealedForm (h : tooLong text = false) :
    open? key nonce (sealedForm key nonce text) = some text := by
  have hlong : tooLong (ChaCha20.crypt key nonce text) = false := by
    rw [tooLong_crypt, h]
  rw [sealedForm, open?_append (length_tagOf _ _ _), ChaCha20.crypt_crypt, hlong]
  simp

/-- Whatever opens is the sealed form of what it opens to. -/
theorem eq_sealedForm_of_open? (h : open? key nonce sealed = some text) :
    tooLong text = false ∧ sealed = sealedForm key nonce text := by
  unfold open? at h
  dsimp only at h
  split at h
  · cases h
  · next hpasses =>
    obtain ⟨hleast, hlong, htag⟩ : ¬ sealed.length < tagSize ∧
        ¬ tooLong (sealed.take (sealed.length - tagSize)) = true ∧
        sealed.drop (sealed.length - tagSize) =
          tagOf key nonce (sealed.take (sealed.length - tagSize)) := by
      rw [not_or, not_or, not_not] at hpasses
      exact hpasses
    obtain rfl := Option.some.inj h
    constructor
    · rw [tooLong_crypt]
      exact Bool.not_eq_true _ ▸ hlong
    · rw [sealedForm, ChaCha20.crypt_crypt, ← htag, List.take_append_drop]

end Sealing

end Cipher

namespace Codec.Key

open Cipher

variable {key : Key}

def frame (key : Key) (nonce payload : List UInt8) : List UInt8 :=
  [1] ++ key.id ++ nonce ++
    (ChaCha20.crypt key.bytes nonce payload ++
      Sealing.tagOf key.bytes nonce (ChaCha20.crypt key.bytes nonce payload))

theorem frame_eq (key : Key) (nonce payload : List UInt8) :
    key.frame nonce payload =
      version :: (key.id ++ (nonce ++ Sealing.sealedForm key.bytes nonce payload)) := by
  simp [frame, version, Sealing.sealedForm]

theorem encode_eq_frame {nonce payload : List UInt8} (h : Sealing.tooLong payload = false) :
    key.encode nonce payload = .ok (key.frame nonce payload) := by
  rw [encode, Sealing.close?_eq h, frame_eq]
  simp

/-- A payload is framed unless it is too long for the key stream; there is no other failure. -/
theorem encode_eq_ite (key : Key) (nonce payload : List UInt8) :
    key.encode nonce payload =
      if Sealing.tooLong payload then .error .encryption else .ok (key.frame nonce payload) := by
  cases hlong : Sealing.tooLong payload with
  | false => exact encode_eq_frame hlong
  | true =>
    rw [encode, Sealing.close?, hlong]
    rfl

theorem eq_frame_of_encode {nonce payload bytes : List UInt8} (h : key.encode nonce payload = .ok bytes) :
    Sealing.tooLong payload = false ∧ bytes = key.frame nonce payload := by
  rw [encode_eq_ite] at h
  split at h
  · cases h
  · next hlong => exact ⟨Bool.eq_false_iff.2 hlong, (Except.ok.inj h).symm⟩

theorem length_frame {nonce payload : List UInt8} (hid : key.id.length = idSize)
    (hnonce : nonce.length = nonceSize) :
    (key.frame nonce payload).length = payload.length + leastSize := by
  rw [frame_eq, List.length_cons, List.length_append, List.length_append,
    Sealing.length_sealedForm, hid, hnonce, leastSize, headerSize]
  omega

/-! ## Where the parts begin -/

/-- A text of bytes that is long enough for a frame, cut where the parts of a frame begin. -/
structure Cut where
  version : UInt8
  id : List UInt8
  nonce : List UInt8
  sealed : List UInt8
  length_id : id.length = idSize
  length_nonce : nonce.length = nonceSize
  least : Sealing.tagSize ≤ sealed.length

/-- The text that was cut. -/
def Cut.bytes (cut : Cut) : List UInt8 := cut.version :: (cut.id ++ (cut.nonce ++ cut.sealed))

/-- A text of bytes that is long enough can be cut like a frame. -/
theorem exists_cut {bytes : List UInt8} (h : leastSize ≤ bytes.length) : ∃ cut : Cut, cut.bytes = bytes := by
  cases bytes with
  | nil => exact absurd h (by decide)
  | cons first rest =>
    rw [leastSize, headerSize, List.length_cons] at h
    let nonce := (rest.drop idSize).take nonceSize
    let sealed := (rest.drop idSize).drop nonceSize
    have hid : (rest.take idSize).length = idSize := by
      rw [List.length_take]
      omega
    have hnonce : nonce.length = nonceSize := by
      rw [List.length_take, List.length_drop]
      omega
    have hleast : Sealing.tagSize ≤ sealed.length := by
      rw [List.length_drop, List.length_drop]
      omega
    refine ⟨⟨first, rest.take idSize, nonce, sealed, hid, hnonce, hleast⟩, ?_⟩
    rw [Cut.bytes, List.take_append_drop, List.take_append_drop]

namespace Cut

variable (cut : Cut)

theorem leastSize_le : leastSize ≤ cut.bytes.length := by
  have hid := cut.length_id
  have hnonce := cut.length_nonce
  have hleast := cut.least
  rw [bytes, List.length_cons, List.length_append, List.length_append, leastSize, headerSize]
  omega

theorem take_id : (cut.bytes.drop 1).take idSize = cut.id := by
  rw [bytes, List.drop_one, List.tail_cons, ← cut.length_id, List.take_left]

theorem drop_id : cut.bytes.drop (1 + idSize) = cut.nonce ++ cut.sealed := by
  rw [bytes, Nat.add_comm, List.drop_succ_cons, ← cut.length_id, List.drop_left]

theorem take_nonce : (cut.bytes.drop (1 + idSize)).take nonceSize = cut.nonce := by
  rw [drop_id, ← cut.length_nonce, List.take_left]

theorem drop_nonce : cut.bytes.drop headerSize = cut.sealed := by
  rw [headerSize, ← List.drop_drop, drop_id, ← cut.length_nonce, List.drop_left]

/-- Each part is checked for itself, in the order of the parts. -/
theorem decode_bytes (key : Key) :
    key.decode cut.bytes =
      if cut.version ≠ Codec.version then .error (.unsupportedVersion cut.version)
      else if cut.id ≠ key.id then .error .keyMismatch
      else match Sealing.open? key.bytes cut.nonce cut.sealed with
        | some payload => .ok payload
        | none => .error .authentication := by
  have hleast : ¬ cut.bytes.length < leastSize := Nat.not_lt.2 cut.leastSize_le
  have hversion : cut.bytes.headD 0 = cut.version := rfl
  rewrite [decode, if_neg hleast, hversion, cut.take_id, cut.take_nonce, cut.drop_nonce]
  rfl

end Cut

/-- A text of bytes that is too short for a frame is rejected for its length. -/
theorem decode_of_short {bytes : List UInt8} (h : bytes.length < leastSize) :
    key.decode bytes = .error (.truncated bytes.length leastSize) := by
  rw [decode, if_pos h]

/-- A frame is cut into the parts that it was made of. -/
def frameCut (key : Key) {nonce : List UInt8} (payload : List UInt8) (hid : key.id.length = idSize)
    (hnonce : nonce.length = nonceSize) : Cut where
  version := version
  id := key.id
  nonce := nonce
  sealed := Sealing.sealedForm key.bytes nonce payload
  length_id := hid
  length_nonce := hnonce
  least := by
    rw [Sealing.length_sealedForm]
    omega

/-- A key reads the frames that it makes. -/
theorem decode_frame {nonce payload : List UInt8} (hid : key.id.length = idSize)
    (hnonce : nonce.length = nonceSize) (h : Sealing.tooLong payload = false) :
    key.decode (key.frame nonce payload) = .ok payload := by
  have hcut : (key.frameCut payload hid hnonce).bytes = key.frame nonce payload :=
    (frame_eq key nonce payload).symm
  rw [← hcut, Cut.decode_bytes]
  simp only [frameCut, ne_eq, not_true_eq_false, if_false, Sealing.open?_sealedForm h]

/-- What was framed is read again. -/
theorem decode_encode {nonce payload bytes : List UInt8} (hid : key.id.length = idSize)
    (hnonce : nonce.length = nonceSize) (h : key.encode nonce payload = .ok bytes) :
    key.decode bytes = .ok payload := by
  obtain ⟨hshort, rfl⟩ := eq_frame_of_encode h
  exact decode_frame hid hnonce hshort

theorem leastSize_le_of_decode {bytes payload : List UInt8} (h : key.decode bytes = .ok payload) :
    leastSize ≤ bytes.length := by
  by_contra hshort
  rw [decode_of_short (Nat.lt_of_not_le hshort)] at h
  cases h

/-- Whatever is read is the frame of what was read from it, under the nonce that it carries. -/
theorem eq_frame_of_decode {bytes payload : List UInt8} (h : key.decode bytes = .ok payload) :
    Sealing.tooLong payload = false ∧
      bytes = key.frame ((bytes.drop (1 + idSize)).take nonceSize) payload := by
  obtain ⟨cut, rfl⟩ := exists_cut (leastSize_le_of_decode h)
  rw [cut.decode_bytes] at h
  split at h
  · cases h
  next hversion =>
  split at h
  · cases h
  next hid =>
  cases hopen : Sealing.open? key.bytes cut.nonce cut.sealed with
  | none => simp [hopen] at h
  | some opened =>
    simp only [hopen, Except.ok.injEq] at h
    subst h
    obtain ⟨hshort, hsealed⟩ := Sealing.eq_sealedForm_of_open? hopen
    refine ⟨hshort, ?_⟩
    rw [cut.take_nonce, frame_eq, ← hsealed, ← not_not.1 hversion, ← not_not.1 hid, Cut.bytes]

theorem ofSecret_of_read {secret : String} {raw : List UInt8}
    (hread : Text.Hex.read (Text.strip secret).toUTF8.toList = .ok raw)
    (hfits : raw.length = 16 ∨ raw.length = 32) : ofSecret secret = .ok (derive raw) := by
  rw [ofSecret, hread]
  exact if_pos hfits

/-- The fingerprint of a key that a secret gives has the right length. -/
theorem length_id_of_ofSecret {secret : String} (h : ofSecret secret = .ok key) :
    key.id.length = idSize := by
  unfold ofSecret at h
  split at h
  · cases h
  · split at h
    · obtain rfl := Except.ok.inj h
      exact length_id_derive _
    · cases h

/-- A key reads the frame of every payload that is not too long, and reads nothing else. -/
theorem reads_own_frames {secret : String} (hkey : ofSecret secret = .ok key) :
    (∀ nonce payload : List UInt8, nonce.length = 12 → payload.length / 64 < UInt32.size - 1 →
      (key.frame nonce payload).length = payload.length + 37 ∧
        key.encode nonce payload = .ok (key.frame nonce payload) ∧
        key.decode (key.frame nonce payload) = .ok payload) ∧
    (∀ bytes payload : List UInt8, key.decode bytes = .ok payload →
      bytes = key.frame ((bytes.drop 9).take 12) payload ∧
        key.encode ((bytes.drop 9).take 12) payload = .ok bytes) := by
  have hid := length_id_of_ofSecret hkey
  constructor
  · intro nonce payload hnonce hshort
    have hlong : Sealing.tooLong payload = false := by
      rw [Sealing.tooLong, decide_eq_false_iff_not]
      exact Nat.not_le.2 hshort
    exact ⟨length_frame hid hnonce, encode_eq_frame hlong, decode_frame hid hnonce hlong⟩
  · intro bytes payload hread
    obtain ⟨hshort, hframe⟩ := eq_frame_of_decode hread
    have hencode : key.encode ((bytes.drop 9).take 12) payload = .ok (key.frame _ payload) :=
      encode_eq_frame hshort
    exact ⟨hframe, hencode.trans (congrArg Except.ok hframe.symm)⟩

def secretBytes : List UInt8 :=
  [0x00, 0x11, 0x22, 0x33, 0x44, 0x55, 0x66, 0x77, 0x88, 0x99, 0xaa, 0xbb, 0xcc, 0xdd, 0xee, 0xff]

theorem greeting_reads_back :
    ofSecret " 00112233445566778899AABBccddeeff\n" = .ok (derive secretBytes) ∧
      (derive secretBytes).decode ((derive secretBytes).frame (List.replicate 12 7) [104, 105]) =
        .ok [104, 105] ∧
      (derive secretBytes).encode
          ((((derive secretBytes).frame (List.replicate 12 7) [104, 105]).drop 9).take 12) [104, 105] =
        .ok ((derive secretBytes).frame (List.replicate 12 7) [104, 105]) := by
  have hraw : Text.Hex.read (Text.strip " 00112233445566778899AABBccddeeff\n").toUTF8.toList =
      .ok secretBytes := by
    decide +kernel
  have hkey : ofSecret " 00112233445566778899AABBccddeeff\n" = .ok (derive secretBytes) := by
    rw [ofSecret, hraw]
    rfl
  obtain ⟨-, -, hread⟩ := (reads_own_frames hkey).1 (List.replicate 12 7) [104, 105] rfl (by decide)
  exact ⟨hkey, hread, ((reads_own_frames hkey).2 _ _ hread).2⟩

end Codec.Key

end FleetAgent
