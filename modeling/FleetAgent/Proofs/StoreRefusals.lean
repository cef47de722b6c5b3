import FleetAgent.Proofs.StoreReload

/-!
# What is refused after it was saved

A store is saved as it is, and only when settings are read is half a key pair refused. So of all that was
saved, settings with half a pair are refused when they are read, and nothing else in a saved settings file
ever is.
-/

namespace FleetAgent.Store

variable {store : Store} {path : Path} {tree : FileTree} {host after later : Host}

/-- Where the settings have no half pair, only the identity can stand against reading them. -/
theorem identityUnread_of_load {settings : Settings} (hread : tree.read path = .ok settings.toText.toUTF8)
    (hyaml : settings.toSheet.ReadsBack) (hwhole : settings.halfPair? = none) (hhost : host.RestsOn tree)
    {reader : Store} {error : StoreError} (h : (reader.load path host).1 = .error error) :
    ∃ fault, error = .identityUnread fault := by
  have hchecked := checked_parse path hyaml
  rw [hwhole] at hchecked
  have hload : reader.load path host = (.error error, (reader.load path host).2) := Prod.ext h rfl
  obtain hreading | ⟨settings, read, -, hreported⟩ := bind_eq_error hload
  · obtain ⟨opened, hopen, -⟩ := (Host.Yields.readText hread).mapError (readError path) host hhost
    rw [readSettings, bind_of_ok hopen, hchecked] at hreading
    obtain hpassed | ⟨said, passed, -, hreading⟩ := bind_eq_error hreading
    · cases hpassed
    obtain hname | ⟨systemId, named, -, hreading⟩ := bind_eq_error hreading
    · exact Host.mapError_eq_error hname
    obtain hshare | ⟨secret, shared, -, hdone⟩ := bind_eq_error hreading
    · exact Host.mapError_eq_error hshare
    · cases hdone
  · cases hreported

/-- What was saved can always be read as settings, whoever reads it, and half a pair in them is the one
thing that is refused. -/
theorem saved_refused_iff (hfile : store.file = some path) (hyaml : store.settings.toSheet.ReadsBack)
    (hapart : store.SettingsApart path host.tree) (hsave : store.save host = (.ok (), after))
    (huntouched : store.Untouched path after.tree later.tree) (hundisturbed : later.Undisturbed)
    (reader : Store) :
    (∀ other fault, (reader.load path later).1 ≠ .error (.unparsed other fault)) ∧
      ∀ part, (reader.load path later).1 = .error (.halfPair part) ↔ store.settings.halfPair? = some part := by
  have hread := (saved_of_save hfile hapart hsave huntouched).settings
  have hhost := Host.RestsOn.of_undisturbed hundisturbed
  cases hhalf : store.settings.halfPair? with
  | none =>
    have herror {error : StoreError} (h : (reader.load path later).1 = .error error) :
        ∃ fault, error = .identityUnread fault := identityUnread_of_load hread hyaml hhalf hhost h
    refine ⟨fun other fault h ↦ ?_, fun part ↦ ⟨fun h ↦ ?_, fun h ↦ ?_⟩⟩
    · obtain ⟨_, ⟨⟩⟩ := herror h
    · obtain ⟨_, ⟨⟩⟩ := herror h
    · cases h
  | some half =>
    obtain ⟨_, hload, -⟩ := (fails_readSettings hread hyaml hhalf reader.identityDir).bind later hhost
    have hrefused : (reader.load path later).1 = .error (.halfPair half) := by
      rw [load, hload]
    rw [hrefused]
    refine ⟨fun other fault h ↦ ?_, fun part ↦ ⟨fun h ↦ ?_, fun h ↦ ?_⟩⟩
    · cases h
    · rw [StoreError.halfPair.inj (Except.error.inj h)]
    · rw [Option.some.inj h]

def keyless : Store where
  identityDir := .ofString "/etc"
  settings.metrics.cert := "m.pem"
  file := some (.ofString "/etc/agent.yaml")

theorem keyless_apart : keyless.SettingsApart (.ofString "/etc/agent.yaml") {} := by
  rintro (_ | _) <;> decide

theorem keyless_save : (keyless.save { tree := {} }).1 = .ok () := eq_ok_of_isOk (by decide +kernel)

/-- Another agent refuses what that store has saved. -/
theorem keyless_refused :
    keyless.settings.toSheet.ReadsBack ∧ keyless.SettingsApart (.ofString "/etc/agent.yaml") {} ∧
      (keyless.save { tree := {} }).1 = .ok () ∧
      (({ identityDir := .ofString "/srv" } : Store).load (.ofString "/etc/agent.yaml")
        { tree := (keyless.save { tree := {} }).2.tree }).1 = .error (.halfPair .metrics) := by
  have hyaml : keyless.settings.toSheet.ReadsBack := by decide +kernel
  let later : Host := { tree := (keyless.save { tree := {} }).2.tree }
  have hquiet : later.Undisturbed := fun _ _ ↦ rfl
  obtain ⟨-, hrefused⟩ := saved_refused_iff rfl hyaml keyless_apart
    (Prod.ext keyless_save rfl) (.refl _ later.tree) hquiet { identityDir := .ofString "/srv" }
  exact ⟨hyaml, keyless_apart, keyless_save, (hrefused .metrics).2 rfl⟩

/-- The section with the half pair, when this is what the error says. -/
def refusal? : Except StoreError Store → Option Section
  | .error (.halfPair part) => some part
  | _ => none

theorem eq_of_refusal? {result : Except StoreError Store} {part : Section} (h : refusal? result = some part) :
    result = .error (.halfPair part) := by
  unfold refusal? at h
  split at h
  · rw [Option.some.inj h]
  · cases h

/-- The store is saved with half a pair, and can then not be read again from its own file. -/
theorem keyless_saved :
    keyless.file = some (.ofString "/etc/agent.yaml") ∧
      keyless.SettingsApart (.ofString "/etc/agent.yaml") {} ∧ (keyless.save { tree := {} }).1 = .ok () ∧
      (keyless.reload (keyless.save { tree := {} }).2).1 = .error (.halfPair .metrics) :=
  ⟨rfl, keyless_apart, keyless_save, eq_of_refusal? (by decide +kernel)⟩

end FleetAgent.Store
