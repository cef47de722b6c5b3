import FleetAgent.Control.Connecting
import FleetAgent.Text.Split
import Mathlib.Data.List.Basic

/-!
# The one address that is dialed

The first endpoint alone decides where an agent dials: it gives the host, and the port is behind the last
colon, since a host with colons of its own stands in brackets. An address can therefore be taken apart again.
Every dial of a sequence goes to that address, and the other endpoints are counted in one report and
otherwise ignored.
-/

namespace FleetAgent.Control

/-- The host and the port of an address are what stands before and behind its last colon. -/
structure Parted (address host port : String) : Prop where
  eq_append : address = host ++ ":" ++ port
  last : ':' ∉ port.toList

/-- An address is parted in one way only, since there is no colon in a port. -/
theorem Parted.unique {address host port host' port' : String} (h : Parted address host port)
    (h' : Parted address host' port') : host = host' ∧ port = port' := by
  have hlists : host.toList ++ ':' :: port.toList = host'.toList ++ ':' :: port'.toList := by
    have heq := congrArg String.toList (h.eq_append.symm.trans h'.eq_append)
    simpa [String.toList_append] using heq
  obtain ⟨hhost, hport⟩ := Text.append_cons_inj_of_last h.last h'.last hlists
  exact ⟨String.toList_injective hhost, String.toList_injective hport⟩

/-! ## Addresses -/

/-- The host of an address: brackets stand around colons, unless there are brackets already. -/
def hostOf (primary : String) : String :=
  if ':' ∈ primary.toList ∧ primary.toList.head? ≠ some '[' then "[" ++ primary ++ "]" else primary

theorem ofList_hostPart (primary : String) : String.ofList (hostPart primary.toList) = hostOf primary := by
  simp only [hostPart, hostOf, List.contains_iff_mem]
  split
  · apply String.toList_injective
    simp
  · exact String.ofList_toList

theorem colon_not_mem_toString (n : Nat) : ':' ∉ (toString n).toList := by
  intro hmem
  rw [Nat.toString_eq_ofList_toDigits, String.toList_ofList] at hmem
  exact absurd (Nat.isDigit_of_mem_toDigits (by decide) (by decide) hmem) (by decide)

/-- Every address is parted into the host of its endpoint and the port. -/
theorem parted_addressOf (primary : String) (port : UInt16) :
    Parted (addressOf primary port) (hostOf primary) (toString port.toNat) where
  eq_append := by rw [addressOf, ofList_hostPart]
  last := colon_not_mem_toString _

/-- A host that begins with a bracket has been put in brackets, if the primary endpoint has none in front. -/
theorem hostOf_injective {primary other : String} (hprimary : primary.toList.head? ≠ some '[')
    (hother : other.toList.head? ≠ some '[') (h : hostOf primary = hostOf other) : primary = other := by
  have hbracket (text : String) : ("[" ++ text ++ "]").toList.head? = some '[' := by simp
  unfold hostOf at h
  split at h
  · split at h
    · apply String.toList_injective
      have hchars := congrArg String.toList h
      simpa [String.toList_append] using hchars
    · exact absurd (h ▸ hbracket primary) hother
  · split at h
    · exact absurd (h ▸ hbracket other) hprimary
    · exact h

theorem toString_port_injective {port other : UInt16} (h : toString port.toNat = toString other.toNat) :
    port = other := by
  have hdigits : Nat.toDigits 10 port.toNat = Nat.toDigits 10 other.toNat := by
    rw [Nat.toString_eq_ofList_toDigits, Nat.toString_eq_ofList_toDigits] at h
    exact String.ofList_injective h
  apply UInt16.toNat_inj.1
  calc
    port.toNat = Nat.ofDigitChars 10 (Nat.toDigits 10 port.toNat) 0 := Nat.ofDigitChars_ten_toDigits.symm
    _ = Nat.ofDigitChars 10 (Nat.toDigits 10 other.toNat) 0 := by rw [hdigits]
    _ = other.toNat := Nat.ofDigitChars_ten_toDigits

/-- The address tells the primary endpoint and the port, if the endpoint has no bracket in front. -/
theorem addressOf_injective {primary other : String} {port otherPort : UInt16}
    (hprimary : primary.toList.head? ≠ some '[') (hother : other.toList.head? ≠ some '[')
    (h : addressOf primary port = addressOf other otherPort) : primary = other ∧ port = otherPort := by
  obtain ⟨hhost, hport⟩ := (parted_addressOf primary port).unique (h ▸ parted_addressOf other otherPort)
  exact ⟨hostOf_injective hprimary hother hhost, toString_port_injective hport⟩

/-! ## Targets -/

def ignoring (first : String) (rest : List String) : List Log.Event :=
  if Text.strip first = "" ∨ rest = [] then [] else [passedOver (Text.strip first) rest.length]

theorem primary?_cons (first : String) (rest : List String) :
    primary? (first :: rest) = if Text.strip first = "" then none else some (Text.strip first) := by
  rw [primary?, List.head?_cons, Option.map_some, Option.filter_some]
  by_cases hblank : Text.strip first = "" <;> simp [hblank]

theorem target_cons (first : String) (rest : List String) (port : UInt16) :
    target (first :: rest) port =
      if Text.strip first = "" then .error .noEndpoints
      else .ok (addressOf (Text.strip first) port, ignoring first rest) := by
  rw [target, primary?_cons]
  by_cases hblank : Text.strip first = ""
  · simp [hblank]
  · simp [ignoring, hblank]

/-- There is a target just when the first endpoint says anything; those behind it only show in what is
reported. -/
theorem target_eq_ok_iff {endpoints : List String} {port : UInt16} {address : String}
    {events : List Log.Event} :
    target endpoints port = .ok (address, events) ↔
      ∃ first rest, endpoints = first :: rest ∧ Text.strip first ≠ "" ∧
        address = addressOf (Text.strip first) port ∧ events = ignoring first rest := by
  constructor
  · intro h
    cases endpoints with
    | nil => cases h
    | cons first rest =>
      rw [target_cons] at h
      split at h
      · cases h
      next hblank =>
        obtain ⟨haddress, hevents⟩ := Prod.mk.inj (Except.ok.inj h)
        exact ⟨first, rest, rfl, hblank, haddress.symm, hevents.symm⟩
  · rintro ⟨first, rest, rfl, hblank, rfl, rfl⟩
    rw [target_cons, if_neg hblank]

/-- There is no target just when there is no endpoint or the first one says nothing. -/
theorem target_eq_error_iff {endpoints : List String} {port : UInt16} {error : ConnectError} :
    target endpoints port = .error error ↔
      error = .noEndpoints ∧ (endpoints = [] ∨ ∃ first rest, endpoints = first :: rest ∧ Text.strip first = "") := by
  constructor
  · intro h
    cases endpoints with
    | nil =>
      cases h
      exact ⟨rfl, .inl rfl⟩
    | cons first rest =>
      rw [target_cons] at h
      split at h
      next hblank =>
        cases h
        exact ⟨rfl, .inr ⟨first, rest, rfl, hblank⟩⟩
      · cases h
  · rintro ⟨rfl, rfl | ⟨first, rest, rfl, hblank⟩⟩
    · rfl
    · rw [target_cons, if_pos hblank]

section

variable (port : UInt16) (backoff : Backoff) (draws : Nat → Float) (dialer : Dialer) (start : Moment) (fuel : Nat)

/-- A sequence of dials to an address depends on nothing but how dials of that address go. -/
theorem connectTo_congr {address : String} {other : Dialer} (h : ∀ n, other n address = dialer n address) :
    connectTo address backoff draws other start fuel = connectTo address backoff draws dialer start fuel := by
  have hattempt : dialAttempt other address = dialAttempt dialer address := by
    simp only [dialAttempt, h]
  rw [connectTo, connectTo, hattempt]

theorem connect_of_target {endpoints : List String} {address : String} {events : List Log.Event}
    (h : target endpoints port = .ok (address, events)) :
    connect endpoints port backoff draws dialer start fuel =
      { connectTo address backoff draws dialer start fuel with
        events := events ++ (connectTo address backoff draws dialer start fuel).events } := by
  rw [connect, h]

theorem connect_of_no_target {endpoints : List String} {error : ConnectError}
    (h : target endpoints port = .error error) :
    connect endpoints port backoff draws dialer start fuel =
      { verdict := .failure ⟨connectName, 0, .zero, error⟩, moment := start } := by
  rw [connect, h]

/-- The endpoints behind the first one are reported, and make no other difference. -/
theorem connect_cons (first : String) (rest : List String) :
    connect (first :: rest) port backoff draws dialer start fuel =
      { connect [first] port backoff draws dialer start fuel with
        events := ignoring first rest ++ (connect [first] port backoff draws dialer start fuel).events } := by
  by_cases hblank : Text.strip first = ""
  · have hnone (rest : List String) : target (first :: rest) port = .error .noEndpoints := by
      rw [target_cons, if_pos hblank]
    rw [connect_of_no_target _ _ _ _ _ _ (hnone rest), connect_of_no_target _ _ _ _ _ _ (hnone [])]
    simp [ignoring, hblank]
  · have hsome (rest : List String) :
        target (first :: rest) port = .ok (addressOf (Text.strip first) port, ignoring first rest) := by
      rw [target_cons, if_neg hblank]
    rw [connect_of_target _ _ _ _ _ _ (hsome rest), connect_of_target _ _ _ _ _ _ (hsome [])]
    simp [ignoring]

end

/-- There is no address if there is no first endpoint or a blank one, and then nothing is dialed. Otherwise
the first endpoint is the part of the address before the last colon, in brackets where it needs them, and
the port the part behind it. All dials go to that address, and the endpoints behind the first one change
nothing but one report, which counts them. -/
theorem primary_alone_dialed (endpoints : List String) (port : UInt16) (backoff : Backoff)
    (draws : Nat → Float) (dialer : Dialer) (start : Moment) (fuel : Nat) :
    let connecting := connect endpoints port backoff draws dialer start fuel
    (∀ error, target endpoints port = .error error ↔ error = .noEndpoints ∧
      (endpoints = [] ∨ ∃ first rest, endpoints = first :: rest ∧ Text.strip first = "")) ∧
    (∀ error, target endpoints port = .error error →
      connecting.dials = [] ∧ connecting.verdict = .failure ⟨"connect", 0, .zero, .noEndpoints⟩) ∧
    (∀ address events, target endpoints port = .ok (address, events) →
      (∃ first rest, endpoints = first :: rest ∧
        let primary := Text.strip first
        Parted address
          (if ':' ∈ primary.toList ∧ primary.toList.head? ≠ some '[' then "[" ++ primary ++ "]" else primary)
          (toString port.toNat) ∧
        ∀ other others otherPort otherEvents,
          target (other :: others) otherPort = .ok (address, otherEvents) →
          primary.toList.head? ≠ some '[' → (Text.strip other).toList.head? ≠ some '[' →
            Text.strip other = primary ∧ otherPort = port) ∧
      (∀ dial ∈ connecting.dials, dial.options.address = address) ∧
      ∀ other : Dialer, (∀ n, other n address = dialer n address) →
        connect endpoints port backoff draws other start fuel = connecting) ∧
    ∀ first rest, endpoints = first :: rest →
      let alone := connect [first] port backoff draws dialer start fuel
      let primary := Text.strip first
      connecting = { alone with events :=
        (if primary = "" ∨ rest = [] then [] else
          [⟨.warn, "fleetd_agent::connection",
            "Only the primary control-plane endpoint is dialed; fallback to secondary endpoints is not implemented",
            [("primary", .shown primary), ("ignored", .shown (toString rest.length))]⟩]) ++ alone.events } := by
  intro connecting
  refine ⟨fun error ↦ target_eq_error_iff, fun error herror ↦ ?_, fun address events htarget ↦ ?_, ?_⟩
  · obtain ⟨rfl, -⟩ := target_eq_error_iff.1 herror
    have hconnecting := connect_of_no_target port backoff draws dialer start fuel herror
    exact ⟨congrArg Connecting.dials hconnecting, congrArg Connecting.verdict hconnecting⟩
  · have hconnecting := connect_of_target port backoff draws dialer start fuel htarget
    obtain ⟨first, rest, rfl, -, rfl, -⟩ := target_eq_ok_iff.1 htarget
    refine ⟨⟨first, rest, rfl, parted_addressOf _ _, ?_⟩, fun dial hdial ↦ ?_, fun other hother ↦ ?_⟩
    · intro other others otherPort otherEvents hother hfirst hhead
      obtain ⟨_, _, heq, -, haddress, -⟩ := target_eq_ok_iff.1 hother
      obtain ⟨rfl, rfl⟩ := List.cons.inj heq
      exact addressOf_injective hhead hfirst haddress.symm
    · change dial ∈ (connect _ _ _ _ _ _ _).dials at hdial
      rw [hconnecting] at hdial
      obtain ⟨this, -, rfl⟩ := List.mem_map.1 hdial
      rfl
    · change _ = connect _ _ _ _ _ _ _
      rw [hconnecting, connect_of_target port backoff draws other start fuel htarget,
        connectTo_congr backoff draws dialer start fuel hother]
  · rintro first rest rfl
    exact connect_cons port backoff draws dialer start fuel first rest

/-- A port is never taken for the last part of an address with colons. -/
example : addressOf "fd00::1" 5271 = "[fd00::1]:5271" := by decide

end FleetAgent.Control
