import FleetAgent.Proofs.Reports
import FleetAgent.Proofs.StoreReading

/-!
# The first check that fails

Loading checks one thing after the other: the settings file, what it says, the key pairs in it, and the two
files of the identity. Each check looks at the outcome of one reading, and none at what comes later. So the
error of a failed load is that of the first check that fails, and a load in which all checks pass puts the
identity over the settings that were read.
-/

namespace FleetAgent

def FileTree.textOf (tree : FileTree) (path : Path) : Except FileError String :=
  match tree.read path with
  | .error fault => .error fault
  | .ok bytes =>
    match String.fromUTF8? bytes with
    | some text => .ok text
    | none => .error .notUtf8

namespace Host

/-- What reading a file as text comes to behind `n` other calls. -/
def textAt (host : Host) (n : Nat) (path : Path) : Except FileError String :=
  match host.faults (host.calls + n) with
  | some fault => .error fault
  | none => host.tree.textOf path

/-- Reading a text is one call, which leaves the files as they are. -/
theorem readText_apply (path : Path) (host : Host) :
    ∃ trail, readText path host = (host.textAt 0 path, { host with calls := host.calls + 1, trail }) := by
  unfold readText textAt FileTree.textOf ask call
  rw [bind_apply, Nat.add_zero]
  cases host.faults host.calls with
  | some fault => exact ⟨_, rfl⟩
  | none =>
    cases hread : host.tree.read path with
    | error fault => exact ⟨host.tree :: host.trail, by simp [Except.map, hread]⟩
    | ok bytes =>
      refine ⟨host.tree :: host.trail, ?_⟩
      simp only [Except.map, hread]
      cases String.fromUTF8? bytes <;> rfl

end Host

theorem Host.mapError_apply (f : ε → ε') (act : HostM ε α) (host : Host) :
    mapError f act host = ((act host).1.mapError f, (act host).2) := by
  unfold mapError
  rcases act host with ⟨_ | _, _⟩ <;> rfl

namespace IdentityFile

inductive Unread (file : IdentityFile) (path : Path) : FileError → IdentityError → Prop where
  | missing : Unread file path .notFound (.missing file path)
  | unread {fault : FileError} (hfault : fault ≠ .notFound) : Unread file path fault (.unread file path fault)

theorem unread_iff {file : IdentityFile} {path : Path} {fault : FileError} {error : IdentityError} :
    file.Unread path fault error ↔ error = file.readError path fault := by
  constructor
  · rintro (_ | hfault)
    · rfl
    · cases fault with
      | notFound => exact absurd rfl hfault
      | _ => rfl
  · rintro rfl
    cases fault with
    | notFound => exact .missing
    | _ => exact .unread nofun

theorem read_apply (file : IdentityFile) (directory : Path) (host : Host) :
    ∃ trail, file.read directory host =
      (((host.textAt 0 (file.path directory)).mapError (file.readError (file.path directory))).map Text.strip,
        { host with calls := host.calls + 1, trail }) := by
  obtain ⟨trail, htext⟩ := Host.readText_apply (file.path directory) host
  refine ⟨trail, ?_⟩
  unfold read Host.mapError
  rw [bind_apply, htext]
  cases host.textAt 0 (file.path directory) <;> rfl

end IdentityFile

namespace Store

variable {store loaded : Store} {path identityDir : Path} {host : Host}

theorem ofExcept_apply (result : Except StoreError α) (host : Host) :
    (MonadExcept.ofExcept result : HostM StoreError α) host = (result, host) := by
  cases result <;> rfl

/-- What a text says as settings; one of nothing but blanks says nothing. -/
inductive Tells (text : String) : Except SettingsFault Settings → Prop where
  | nothing (hblank : Text.isBlankText text = true) : Tells text (.ok {})
  | document (hshown : Text.isBlankText text = false) : Tells text (Settings.ofText text)

/-- A text tells what parsing it gives. -/
theorem tells_iff {text : String} {said : Except SettingsFault Settings} : Tells text said ↔ said = parse text := by
  unfold parse
  cases hblank : Text.isBlankText text with
  | true =>
    refine ⟨?_, fun h ↦ h ▸ .nothing hblank⟩
    rintro (_ | hshown)
    · rfl
    · rw [hblank] at hshown
      cases hshown
  | false =>
    refine ⟨?_, fun h ↦ h ▸ .document hblank⟩
    rintro (hnothing | _)
    · rw [hblank] at hnothing
      cases hnothing
    · rfl

/-- The settings file was read, and what it tells has no half pair. -/
structure Sound (text : Except FileError String) (said : Settings) : Prop where
  told : ∃ content, text = .ok content ∧ Tells content (.ok said)
  rpc : halfPair said.tls.cert said.tls.key = false
  metrics : halfPair said.metrics.cert said.metrics.key = false

/-- The settings of one text with the identity of two others. -/
def overlaid (identityDir : Path) (said : Settings) (systemId secret : String) : Settings :=
  { said with base := identityDir, systemId := Text.strip systemId, secret := Text.strip secret }

/-- What loading gives when the files are read with these outcomes. -/
def judged (path identityDir : Path) (text systemId secret : Except FileError String) :
    Except StoreError Settings := do
  let text ← text.mapError (readError path)
  let said ← (parse text).mapError (.unparsed path) >>= checked
  let unread (file : IdentityFile) (fault : FileError) : StoreError :=
    .identityUnread (file.readError (file.path identityDir) fault)
  let systemId ← systemId.mapError (unread .systemId)
  let secret ← secret.mapError (unread .secret)
  return overlaid identityDir said systemId secret

/-- What reading gives is a judgement on the three files, each of them read in its turn. -/
theorem readSettings_fst (path identityDir : Path) (host : Host) :
    (readSettings path identityDir host).1 = judged path identityDir (host.textAt 0 path)
      (host.textAt 1 (IdentityFile.systemId.path identityDir))
      (host.textAt 2 (IdentityFile.secret.path identityDir)) := by
  obtain ⟨opened, hopen⟩ := Host.readText_apply path host
  let first : Host := { host with calls := host.calls + 1, trail := opened }
  obtain ⟨named, hname⟩ := IdentityFile.systemId.read_apply identityDir first
  let second : Host := { first with calls := first.calls + 1, trail := named }
  obtain ⟨shared, hshare⟩ := IdentityFile.secret.read_apply identityDir second
  have hfirst (path : Path) : first.textAt 0 path = host.textAt 1 path := rfl
  have hsecond (path : Path) : second.textAt 0 path = host.textAt 2 path := rfl
  rw [hfirst] at hname
  rw [hsecond] at hshare
  have hok (text : String) (turn : FileError → StoreError) (next : String → Except StoreError Settings) :
      (Except.ok text).mapError turn >>= next = next text := rfl
  rw [readSettings, judged, bind_apply, Host.mapError_apply, hopen]
  cases host.textAt 0 path with
  | error fault => rfl
  | ok text =>
    rw [hok]
    change ((MonadExcept.ofExcept _ >>= _ : HostM StoreError Settings) first).1 = _
    rw [bind_apply, ofExcept_apply]
    cases (parse text).mapError (StoreError.unparsed path) >>= checked with
    | error error => rfl
    | ok said =>
      change ((Host.mapError _ _ >>= _ : HostM StoreError Settings) first).1 = _
      rw [bind_apply, Host.mapError_apply, hname]
      cases host.textAt 1 (IdentityFile.systemId.path identityDir) with
      | error fault => rfl
      | ok systemId =>
        change ((Host.mapError _ _ >>= _ : HostM StoreError Settings) second).1 = _
        rw [bind_apply, Host.mapError_apply, hshare]
        cases host.textAt 2 (IdentityFile.secret.path identityDir) <;> rfl

/-- Loading gives what is judged of the three readings. -/
theorem load_fst (store : Store) (path : Path) (host : Host) :
    (store.load path host).1 =
      (judged path store.identityDir (host.textAt 0 path)
        (host.textAt 1 (IdentityFile.systemId.path store.identityDir))
        (host.textAt 2 (IdentityFile.secret.path store.identityDir))).map
          fun settings ↦ { store with settings, file := some path } := by
  rw [← readSettings_fst, load, bind_apply]
  rcases readSettings path store.identityDir host with ⟨_ | settings, after⟩ <;> rfl

/-! ## The order of the checks -/

/-- The checks that reading fails at, in their order. Each one is told with what it takes for the checks
before it to pass, and says nothing of what the checks behind it would see. -/
inductive FirstFailure (path identityDir : Path) (text systemId secret : Except FileError String) :
    StoreError → Prop where
  | missing (htext : text = .error .notFound) :
    FirstFailure path identityDir text systemId secret (.missing path)
  | unread {fault : FileError} (htext : text = .error fault) (hfault : fault ≠ .notFound) :
    FirstFailure path identityDir text systemId secret (.unread path fault)
  | unparsed {content : String} {fault : SettingsFault} (htext : text = .ok content)
    (htells : Tells content (.error fault)) :
    FirstFailure path identityDir text systemId secret (.unparsed path fault)
  | rpc {content : String} {said : Settings} (htext : text = .ok content) (htells : Tells content (.ok said))
    (hhalf : halfPair said.tls.cert said.tls.key = true) :
    FirstFailure path identityDir text systemId secret (.halfPair .rpc)
  | metrics {content : String} {said : Settings} (htext : text = .ok content)
    (htells : Tells content (.ok said)) (hwhole : halfPair said.tls.cert said.tls.key = false)
    (hhalf : halfPair said.metrics.cert said.metrics.key = true) :
    FirstFailure path identityDir text systemId secret (.halfPair .metrics)
  | systemId {said : Settings} {fault : FileError} {error : IdentityError} (hsound : Sound text said)
    (hname : systemId = .error fault)
    (hunread : IdentityFile.systemId.Unread (IdentityFile.systemId.path identityDir) fault error) :
    FirstFailure path identityDir text systemId secret (.identityUnread error)
  | secret {said : Settings} {name : String} {fault : FileError} {error : IdentityError}
    (hsound : Sound text said) (hname : systemId = .ok name) (hsecret : secret = .error fault)
    (hunread : IdentityFile.secret.Unread (IdentityFile.secret.path identityDir) fault error) :
    FirstFailure path identityDir text systemId secret (.identityUnread error)

section

variable {text systemId secret : Except FileError String} {said : Settings} {identityDir : Path}

/-- Settings without half a key pair pass. -/
theorem checked_of_whole (hrpc : halfPair said.tls.cert said.tls.key = false)
    (hmetrics : halfPair said.metrics.cert said.metrics.key = false) : checked said = .ok said := by
  simp [checked, Settings.halfPair?, hrpc, hmetrics]

/-- Behind a sound settings file, reading comes down to the identity. -/
theorem Sound.judged_eq (h : Sound text said) :
    judged path identityDir text systemId secret =
      (systemId.mapError fun fault ↦ .identityUnread
        (IdentityFile.systemId.readError (IdentityFile.systemId.path identityDir) fault)) >>= fun systemId ↦
      (secret.mapError fun fault ↦ .identityUnread
        (IdentityFile.secret.readError (IdentityFile.secret.path identityDir) fault)) >>= fun secret ↦
      .ok (overlaid identityDir said systemId secret) := by
  obtain ⟨⟨content, rfl, htells⟩, hrpc, hmetrics⟩ := h
  have hchecked := checked_of_whole hrpc hmetrics
  change ((parse content).mapError (.unparsed path) >>= checked) >>= _ = _
  rw [← tells_iff.1 htells]
  change checked said >>= _ = _
  rw [hchecked]
  rfl

theorem judged_of_unchecked {content : String} {error : StoreError} (htells : Tells content (.ok said))
    (hchecked : checked said = .error error) :
    judged path identityDir (.ok content) systemId secret = .error error := by
  change ((parse content).mapError (.unparsed path) >>= checked) >>= _ = _
  rw [← tells_iff.1 htells]
  change checked said >>= _ = _
  rw [hchecked]
  rfl

/-- The first check that fails decides the error. -/
theorem FirstFailure.judged_eq {error : StoreError}
    (h : FirstFailure path identityDir text systemId secret error) :
    judged path identityDir text systemId secret = .error error := by
  cases h with
  | missing htext =>
    subst htext
    rfl
  | @unread fault htext hfault =>
    subst htext
    cases fault with
    | notFound => exact absurd rfl hfault
    | _ => rfl
  | unparsed htext htells =>
    subst htext
    change ((parse _).mapError (.unparsed path) >>= checked) >>= _ = _
    rw [← tells_iff.1 htells]
    rfl
  | rpc htext htells hhalf =>
    subst htext
    exact judged_of_unchecked htells (by simp [checked, Settings.halfPair?, hhalf])
  | metrics htext htells hwhole hhalf =>
    subst htext
    exact judged_of_unchecked htells (by simp [checked, Settings.halfPair?, hwhole, hhalf])
  | systemId hsound hname hunread =>
    rw [hsound.judged_eq, hname, IdentityFile.unread_iff.1 hunread]
    rfl
  | secret hsound hname hsecret hunread =>
    rw [hsound.judged_eq, hname, hsecret, IdentityFile.unread_iff.1 hunread]
    rfl

/-- Either a check fails, or all pass. -/
theorem failure_or_sound (path identityDir : Path) (text systemId secret : Except FileError String) :
    (∃ error, FirstFailure path identityDir text systemId secret error) ∨
      ∃ said name shared, Sound text said ∧ systemId = .ok name ∧ secret = .ok shared := by
  cases text with
  | error fault =>
    by_cases hmissing : fault = .notFound
    · exact .inl ⟨_, .missing (congrArg _ hmissing)⟩
    · exact .inl ⟨_, .unread rfl hmissing⟩
  | ok content =>
    cases hparse : parse content with
    | error fault => exact .inl ⟨_, .unparsed rfl (tells_iff.2 hparse.symm)⟩
    | ok said =>
      have htells := tells_iff.2 hparse.symm
      cases hrpc : halfPair said.tls.cert said.tls.key with
      | true => exact .inl ⟨_, .rpc rfl htells hrpc⟩
      | false =>
        cases hmetrics : halfPair said.metrics.cert said.metrics.key with
        | true => exact .inl ⟨_, .metrics rfl htells hrpc hmetrics⟩
        | false =>
          have hsound : Sound (.ok content) said := ⟨⟨content, rfl, htells⟩, hrpc, hmetrics⟩
          cases systemId with
          | error fault => exact .inl ⟨_, .systemId hsound rfl (IdentityFile.unread_iff.2 rfl)⟩
          | ok name =>
            cases secret with
            | error fault => exact .inl ⟨_, .secret hsound rfl rfl (IdentityFile.unread_iff.2 rfl)⟩
            | ok shared => exact .inr ⟨said, name, shared, hsound, rfl, rfl⟩

/-- Reading fails with an error just when this is the error of the first check that fails. -/
theorem judged_eq_error_iff {error : StoreError} :
    judged path identityDir text systemId secret = .error error ↔
      FirstFailure path identityDir text systemId secret error := by
  refine ⟨fun h ↦ ?_, FirstFailure.judged_eq⟩
  obtain ⟨found, hfound⟩ | ⟨said, name, shared, hsound, rfl, rfl⟩ :=
    failure_or_sound path identityDir text systemId secret
  · obtain rfl := Except.error.inj (hfound.judged_eq.symm.trans h)
    exact hfound
  · rw [hsound.judged_eq] at h
    cases h

/-- Reading succeeds just when all checks pass, and then gives the settings with the identity laid over
them. -/
theorem judged_eq_ok_iff {settings : Settings} :
    judged path identityDir text systemId secret = .ok settings ↔
      ∃ said name shared, Sound text said ∧ systemId = .ok name ∧ secret = .ok shared ∧
        settings = overlaid identityDir said name shared := by
  constructor
  · intro h
    obtain ⟨found, hfound⟩ | ⟨said, name, shared, hsound, rfl, rfl⟩ :=
      failure_or_sound path identityDir text systemId secret
    · cases hfound.judged_eq.symm.trans h
    · rw [hsound.judged_eq] at h
      exact ⟨said, name, shared, hsound, rfl, rfl, (Except.ok.inj h).symm⟩
  · rintro ⟨said, name, shared, hsound, rfl, rfl, rfl⟩
    rw [hsound.judged_eq]
    rfl

/-- What lies behind the failing check does not matter. -/
theorem FirstFailure.masks {error : StoreError} {systemId' secret' : Except FileError String}
    (h : FirstFailure path identityDir text systemId secret error)
    (hsystemId : ∀ cause, error = .identityUnread cause → systemId' = systemId)
    (hsecret : ∀ cause, error = .identityUnread cause → cause.file = .secret → secret' = secret) :
    FirstFailure path identityDir text systemId' secret' error := by
  cases h with
  | missing htext => exact .missing htext
  | unread htext hfault => exact .unread htext hfault
  | unparsed htext htells => exact .unparsed htext htells
  | rpc htext htells hhalf => exact .rpc htext htells hhalf
  | metrics htext htells hwhole hhalf => exact .metrics htext htells hwhole hhalf
  | systemId hsound hname hunread => exact .systemId hsound ((hsystemId _ rfl).trans hname) hunread
  | @secret _ _ _ cause hsound hname hshare hunread =>
    have hfile : cause.file = .secret := by cases hunread <;> rfl
    exact .secret hsound ((hsystemId _ rfl).trans hname) ((hsecret _ rfl hfile).trans hshare) hunread

end

theorem map_eq_error_iff {result : Except ε α} {f : α → β} {fault : ε} :
    result.map f = .error fault ↔ result = .error fault := by
  cases result <;> simp [Except.map]

theorem map_eq_ok_iff {result : Except ε α} {f : α → β} {image : β} :
    result.map f = .ok image ↔ ∃ value, result = .ok value ∧ image = f value := by
  cases result <;> simp [Except.map, eq_comm]

/-- Loading fails at the first failing check, whatever the checks behind it would see, and over nothing
else; when all checks pass, the store holds what the settings file tells with the identity over it. The
files stay as they are. -/
theorem load_fails_first (store : Store) (path : Path) (host : Host) :
    let text := host.textAt 0 path
    let systemId := host.textAt 1 (IdentityFile.systemId.path store.identityDir)
    let secret := host.textAt 2 (IdentityFile.secret.path store.identityDir)
    (∀ error, (store.load path host).1 = .error error ↔
      FirstFailure path store.identityDir text systemId secret error) ∧
    (∀ loaded, (store.load path host).1 = .ok loaded ↔
      ∃ said name shared, Sound text said ∧ systemId = .ok name ∧ secret = .ok shared ∧
        loaded = { store with settings := overlaid store.identityDir said name shared, file := some path }) ∧
    (∀ (other : Host) (error : StoreError), (store.load path host).1 = .error error →
      other.textAt 0 path = text →
      (∀ cause, error = .identityUnread cause →
        other.textAt 1 (IdentityFile.systemId.path store.identityDir) = systemId) →
      (∀ cause, error = .identityUnread cause → cause.file = .secret →
        other.textAt 2 (IdentityFile.secret.path store.identityDir) = secret) →
      (store.load path other).1 = .error error) ∧
    (store.load path host).2.tree = host.tree := by
  intro text systemId secret
  have hfails (host : Host) (error : StoreError) : (store.load path host).1 = .error error ↔
      FirstFailure path store.identityDir (host.textAt 0 path)
        (host.textAt 1 (IdentityFile.systemId.path store.identityDir))
        (host.textAt 2 (IdentityFile.secret.path store.identityDir)) error := by
    rw [load_fst, map_eq_error_iff, judged_eq_error_iff]
  refine ⟨hfails host, fun loaded ↦ ?_, fun other error herror htext hsystemId hsecret ↦ ?_, ?_⟩
  · rw [load_fst, map_eq_ok_iff]
    constructor
    · rintro ⟨settings, hjudged, rfl⟩
      obtain ⟨said, name, shared, hsound, hname, hshared, rfl⟩ := judged_eq_ok_iff.1 hjudged
      exact ⟨said, name, shared, hsound, hname, hshared, rfl⟩
    · rintro ⟨said, name, shared, hsound, hname, hshared, rfl⟩
      exact ⟨_, judged_eq_ok_iff.2 ⟨said, name, shared, hsound, hname, hshared, rfl⟩, rfl⟩
  · have hfirst := ((hfails host error).1 herror).masks hsystemId hsecret
    rw [hfails, htext]
    exact hfirst
  · have hlooks := Host.leads_load (fun _ ↦ Host.looks_ask _) (fun _ _ ↦ Host.looks_report (by simp [Store.loaded]))
      store path host
    exact hlooks.2

end Store

end FleetAgent
