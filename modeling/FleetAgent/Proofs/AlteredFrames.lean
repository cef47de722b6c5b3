import FleetAgent.Proofs.OwnFrames

/-!
# Altered frames

Reading cuts a text of bytes where the parts of a frame begin and checks the version, the fingerprint and
the tag, in this order. The tag belongs to one nonce and one hidden text. So where these two are as they
were made, a frame that differs anywhere else is refused, with the error of the first part that differs.
-/

namespace FleetAgent.Codec.Key

open Cipher

variable {key : Key} {nonce payload altered : List UInt8}

/-- A text of bytes that is the same as another one in its middle has a beginning and an end of its own. -/
theorem exists_around {before middle after other : List UInt8}
    (hlength : other.length = (before ++ (middle ++ after)).length)
    (hmiddle : ∀ i, before.length ≤ i → i < before.length + middle.length →
      other[i]? = (before ++ (middle ++ after))[i]?) :
    ∃ first last, other = first ++ (middle ++ last) ∧ first.length = before.length ∧
      last.length = after.length := by
  rw [List.length_append, List.length_append] at hlength
  have hsame : (other.drop before.length).take middle.length = middle := by
    apply List.ext_getElem?
    intro i
    rcases Nat.lt_or_ge i middle.length with hi | hi
    · calc
        ((other.drop before.length).take middle.length)[i]? = other[before.length + i]? := by
          rw [List.getElem?_take_of_lt hi, List.getElem?_drop]
        _ = (before ++ (middle ++ after))[before.length + i]? := hmiddle _ (by omega) (by omega)
        _ = middle[i]? := by
          rw [List.getElem?_append_right (by omega), Nat.add_sub_cancel_left, List.getElem?_append_left hi]
    · rw [List.getElem?_eq_none hi, List.getElem?_eq_none]
      rw [List.length_take]
      omega
  refine ⟨other.take before.length, (other.drop before.length).drop middle.length, ?_, ?_, ?_⟩
  · calc
      other = other.take before.length ++ other.drop before.length := (List.take_append_drop _ _).symm
      _ = other.take before.length ++ ((other.drop before.length).take middle.length ++
          (other.drop before.length).drop middle.length) := by rw [List.take_append_drop middle.length]
      _ = _ := by rw [hsame]
  · rw [List.length_take]
    omega
  · rw [List.length_drop, List.length_drop]
    omega

/-- The text of bytes is a frame but for its version, its fingerprint and its tag. -/
structure Cut.Around (key : Key) (nonce payload : List UInt8) (cut : Cut) (tag : List UInt8) : Prop where
  nonce_eq : cut.nonce = nonce
  sealed_eq : cut.sealed = ChaCha20.crypt key.bytes nonce payload ++ tag
  length_tag : tag.length = Sealing.tagSize

/-- A text of bytes that is like a frame between the fingerprint and the tag can be cut around these parts.
-/
theorem exists_cut_around (hid : key.id.length = idSize) (hnonce : nonce.length = nonceSize)
    (hlength : altered.length = (key.frame nonce payload).length)
    (hmiddle : ∀ i, 1 + idSize ≤ i → i < (key.frame nonce payload).length - Sealing.tagSize →
      altered[i]? = (key.frame nonce payload)[i]?) :
    ∃ cut tag, Cut.bytes cut = altered ∧ cut.Around key nonce payload tag := by
  have htag := Sealing.length_tagOf key.bytes nonce (ChaCha20.crypt key.bytes nonce payload)
  unfold frame at hlength hmiddle
  generalize hhidden : ChaCha20.crypt key.bytes nonce payload = hidden at hlength hmiddle htag
  generalize Sealing.tagOf key.bytes nonce hidden = tag at hlength hmiddle htag
  have hparts : [1] ++ key.id ++ nonce ++ (hidden ++ tag) =
      (1 :: key.id) ++ ((nonce ++ hidden) ++ tag) := by
    simp only [List.append_assoc, List.cons_append, List.nil_append]
  have hbefore : ((1 : UInt8) :: key.id).length = 1 + idSize := by
    rw [List.length_cons, hid, Nat.add_comm]
  rw [hparts] at hlength hmiddle
  obtain ⟨first, last, rfl, hfirst, hlast⟩ := exists_around hlength fun i hi hend ↦ by
    apply hmiddle i
    · omega
    · simp only [List.length_append] at hend ⊢
      omega
  rw [hbefore, Nat.add_comm] at hfirst
  obtain ⟨leading, name, rfl⟩ := List.exists_cons_of_length_eq_add_one hfirst
  have hleast : Sealing.tagSize ≤ (hidden ++ last).length := by
    rw [List.length_append, hlast, htag]
    omega
  refine ⟨⟨leading, name, nonce, hidden ++ last, Nat.succ.inj hfirst, hnonce, hleast⟩, last, ?_, rfl, ?_,
    hlast.trans htag⟩
  · simp only [Cut.bytes, List.cons_append, List.append_assoc]
  · rw [hhidden]

namespace Cut

variable {cut : Cut}

theorem getElem?_id (cut : Cut) {i : Nat} (h : i < idSize) : cut.bytes[i + 1]? = cut.id[i]? := by
  rw [bytes, List.getElem?_cons_succ, List.getElem?_append_left (by rwa [cut.length_id])]

theorem version_eq_iff (cut other : Cut) : cut.version = other.version ↔ cut.bytes[0]? = other.bytes[0]? := by
  rw [bytes, bytes, List.getElem?_cons_zero, List.getElem?_cons_zero, Option.some.injEq]

theorem id_eq_iff (cut other : Cut) :
    cut.id = other.id ↔ ∀ i, 1 ≤ i → i ≤ idSize → cut.bytes[i]? = other.bytes[i]? := by
  constructor
  · intro hsame i hpositive hi
    obtain ⟨j, rfl⟩ := Nat.exists_eq_add_of_le' hpositive
    rw [cut.getElem?_id hi, other.getElem?_id hi, hsame]
  · intro hsame
    apply List.ext_getElem?
    intro i
    rcases Nat.lt_or_ge i idSize with hi | hi
    · rw [← cut.getElem?_id hi, ← other.getElem?_id hi, hsame (i + 1) (by omega) (by omega)]
    · rw [List.getElem?_eq_none (by rwa [cut.length_id]), List.getElem?_eq_none (by rwa [other.length_id])]

/-- A frame with its own version and fingerprint but another tag is not authentic. -/
theorem Around.decode_eq {tag : List UInt8} (h : cut.Around key nonce payload tag)
    (hversion : cut.version = Codec.version) (hid : cut.id = key.id)
    (htag : tag ≠ Sealing.tagOf key.bytes nonce (ChaCha20.crypt key.bytes nonce payload)) :
    key.decode cut.bytes = .error .authentication := by
  have hopen : Sealing.open? key.bytes cut.nonce cut.sealed = none := by
    rw [h.nonce_eq, h.sealed_eq, Sealing.open?_append h.length_tag, if_pos (.inr htag)]
  rw [cut.decode_bytes, if_neg (not_not.2 hversion), if_neg (not_not.2 hid), hopen]

end Cut

/-- A text of bytes that is long enough for a frame is read as the payload of a frame or refused, and of the
checks that it does not pass the first one decides. -/
theorem decode_cases (key : Key) (cut : Cut) :
    (cut.version ≠ version → key.decode cut.bytes = .error (.unsupportedVersion cut.version)) ∧
      (cut.version = version → cut.id ≠ key.id → key.decode cut.bytes = .error .keyMismatch) ∧
      (cut.version = version → cut.id = key.id → key.decode cut.bytes = .error .authentication ∨
        ∃ payload, key.decode cut.bytes = .ok payload ∧ cut.bytes = key.frame cut.nonce payload) := by
  refine ⟨fun hversion ↦ ?_, fun hversion hid ↦ ?_, fun hversion hid ↦ ?_⟩
  · rw [cut.decode_bytes, if_pos hversion]
  · rw [cut.decode_bytes, if_neg (not_not.2 hversion), if_pos hid]
  · cases hread : key.decode cut.bytes with
    | ok payload =>
      have hframe := (eq_frame_of_decode hread).2
      rw [cut.take_nonce] at hframe
      exact .inr ⟨payload, rfl, hframe⟩
    | error fault =>
      rw [cut.decode_bytes, if_neg (not_not.2 hversion), if_neg (not_not.2 hid)] at hread
      split at hread
      · cases hread
      · rw [← Except.error.inj hread]
        exact .inl rfl

/-- A frame that was altered in front of its nonce or in its tag is refused, and so is what is too short for a
frame. Of several reasons the first one counts: the length, the version, the fingerprint, the tag. -/
theorem altered_refused {secret : String} (hkey : ofSecret secret = .ok key) :
    (∀ nonce payload frame altered : List UInt8, nonce.length = 12 → key.encode nonce payload = .ok frame →
      altered.length = frame.length → altered ≠ frame →
      (∀ i, 9 ≤ i → i < frame.length - 16 → altered[i]? = frame[i]?) →
        (altered[0]? ≠ frame[0]? →
          ∃ first, altered[0]? = some first ∧ key.decode altered = .error (.unsupportedVersion first)) ∧
        (altered[0]? = frame[0]? → (∃ i, 1 ≤ i ∧ i ≤ 8 ∧ altered[i]? ≠ frame[i]?) →
          key.decode altered = .error .keyMismatch) ∧
        ((∀ i ≤ 8, altered[i]? = frame[i]?) → key.decode altered = .error .authentication)) ∧
    (∀ bytes : List UInt8, bytes.length < 37 → key.decode bytes = .error (.truncated bytes.length 37)) ∧
    ∀ bytes : List UInt8, 37 ≤ bytes.length → ∃ cut : Cut, cut.bytes = bytes ∧
      (cut.version ≠ 1 → key.decode bytes = .error (.unsupportedVersion cut.version)) ∧
      (cut.version = 1 → cut.id ≠ key.id → key.decode bytes = .error .keyMismatch) ∧
      (cut.version = 1 → cut.id = key.id → key.decode bytes = .error .authentication ∨
        ∃ payload, key.decode bytes = .ok payload ∧ bytes = key.frame cut.nonce payload) := by
  have hid := length_id_of_ofSecret hkey
  refine ⟨?_, fun bytes ↦ decode_of_short, fun bytes hleast ↦ ?_⟩
  · intro nonce payload frame altered hnonce hencode hlength hother hmiddle
    obtain ⟨-, rfl⟩ := eq_frame_of_encode hencode
    obtain ⟨cut, tag, rfl, haround⟩ := exists_cut_around hid hnonce hlength hmiddle
    obtain ⟨hversion, hmismatch, -⟩ := key.decode_cases cut
    let made := key.frameCut payload hid hnonce
    have hmade : made.bytes = key.frame nonce payload := (frame_eq key nonce payload).symm
    rw [← hmade] at hother ⊢
    refine ⟨fun hfirst ↦ ⟨cut.version, rfl, hversion fun hsame ↦ ?_⟩, fun hfirst hname ↦ ?_, fun hsame ↦ ?_⟩
    · exact hfirst ((cut.version_eq_iff made).1 hsame)
    · refine hmismatch ((cut.version_eq_iff made).2 hfirst) fun hsame ↦ ?_
      obtain ⟨i, hpositive, hi, hdiffers⟩ := hname
      exact hdiffers ((cut.id_eq_iff made).1 hsame i hpositive hi)
    · have hfirst : cut.version = version := (cut.version_eq_iff made).2 (hsame 0 (by omega))
      have hname : cut.id = key.id := (cut.id_eq_iff made).2 fun i _ hi ↦ hsame i hi
      refine haround.decode_eq hfirst hname fun htag ↦ hother ?_
      rw [hmade, Cut.bytes, hfirst, hname, haround.nonce_eq, haround.sealed_eq, htag, frame_eq, Sealing.sealedForm]
  · obtain ⟨cut, rfl⟩ := exists_cut hleast
    exact ⟨cut, rfl, key.decode_cases cut⟩

def greetingFrame : List UInt8 := (derive secretBytes).frame (List.replicate 12 7) [104, 105]

/-- With another last byte the tag does not fit, and with another fingerprint as well the tag is not looked
at. -/
theorem greeting_altered_refused :
    (derive secretBytes).decode (greetingFrame.set 38 0) = .error .authentication ∧
      (derive secretBytes).decode ((greetingFrame.set 8 0).set 38 0) = .error .keyMismatch := by
  have hkey : ofSecret "00112233445566778899aabbccddeeff" = .ok (derive secretBytes) :=
    ofSecret_of_read (by decide +kernel) (.inl rfl)
  have hencode : (derive secretBytes).encode (List.replicate 12 7) [104, 105] = .ok greetingFrame :=
    encode_eq_frame (by decide)
  have hlength : greetingFrame.length = 39 := by decide +kernel
  have hbytes : greetingFrame[8]? ≠ some 0 ∧ greetingFrame[38]? ≠ some 0 := by decide +kernel
  have hdiffers {other : List UInt8} (h : other[38]? = some 0) : other ≠ greetingFrame := by
    rintro rfl
    exact hbytes.2 h
  constructor
  · have hset : (greetingFrame.set 38 0).length = greetingFrame.length := List.length_set
    obtain ⟨-, -, htag⟩ := (altered_refused hkey).1 _ _ _ (greetingFrame.set 38 0) rfl hencode hset
      (hdiffers (List.getElem?_set_self (by omega)))
      fun i _ hi ↦ List.getElem?_set_ne (by omega)
    exact htag fun i hi ↦ List.getElem?_set_ne (by omega)
  · have hset : ((greetingFrame.set 8 0).set 38 0).length = greetingFrame.length := by
      rw [List.length_set, List.length_set]
    have hplaces {i : Nat} (hname : i ≠ 8) (hlast : i ≠ 38) :
        ((greetingFrame.set 8 0).set 38 0)[i]? = greetingFrame[i]? := by
      rw [List.getElem?_set_ne hlast.symm, List.getElem?_set_ne hname.symm]
    have hname : ((greetingFrame.set 8 0).set 38 0)[8]? = some 0 := by
      rw [List.getElem?_set_ne (by omega), List.getElem?_set_self (by omega)]
    obtain ⟨-, hmismatch, -⟩ := (altered_refused hkey).1 _ _ _ ((greetingFrame.set 8 0).set 38 0) rfl hencode
      hset (hdiffers (List.getElem?_set_self (by rw [List.length_set]; omega)))
      fun i hi hend ↦ hplaces (by omega) (by omega)
    exact hmismatch (hplaces (by omega) (by omega)) ⟨8, by omega, by omega, hname ▸ hbytes.1.symm⟩

end FleetAgent.Codec.Key
