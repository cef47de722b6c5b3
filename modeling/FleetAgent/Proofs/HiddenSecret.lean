import FleetAgent.Proofs.DirectoryEntries
import FleetAgent.Proofs.GuardedFile
import FleetAgent.Proofs.KeylessPeer
import FleetAgent.Proofs.StoreReload
import FleetAgent.Proofs.TwoKeys

/-!
# The secret does not show

Two runs of the agent have secrets of their own, and so keys of their own; nonces may differ as well, and
every frame that comes in is under the key of the run that it comes to. All that can be seen of the runs is
the same: how they end, what they report and when, what they send and how long the frames for it are, and what
they do to the files. No stage of a run looks at more of the secret than whether it gives a key.
-/

namespace FleetAgent

open Control (Reply Wire Link Sent Paired)

def AgentOptions.secretPath (options : AgentOptions) : Path := IdentityFile.secret.path options.identityDir

theorem AgentOptions.holds_secret {options : AgentOptions} {tree : FileTree} {content : ByteArray}
    (h : tree.read options.secretPath = .ok content) : tree.Holds options.secretPath content :=
  FileTree.holds_of_read IdentityFile.secret.isEntryName_name h

variable {R : FileTree → FileTree → Prop} {key key' : Codec.Key}

/-- Nothing differs between the worlds but the trees, which are in the relation, and what follows from the
keys. -/
structure World.Twins (R : FileTree → FileTree → Prop) (key key' : Codec.Key) (world other : World) : Prop where
  host : Host.Twins R world.host other.host
  now : world.now = other.now
  dials : world.dials = other.dials
  link : Option.Rel (Link.Twins R key key') world.link? other.link?

theorem World.Twins.sent {world other : World} (h : world.Twins R key key' other) :
    List.Forall₂ (Sent.Twins R) world.sent other.sent := by
  have hlink := h.link
  unfold World.sent
  generalize world.link? = link? at hlink ⊢
  generalize other.link? = other? at hlink ⊢
  cases hlink with
  | some hlink => exact hlink.sent
  | none => exact .nil

/-- Worlds that differ in their keys alone still do so when the same is reported. -/
theorem World.Twins.reporting {world other : World} (h : world.Twins R key key' other) (events : List Log.Event) :
    (world.reporting events).Twins R key key' (other.reporting events) :=
  ⟨⟨h.host.tree, h.host.faults, h.host.calls, congrArg (events.reverse ++ ·) h.host.log⟩, h.now, h.dials, h.link⟩

namespace Agent

variable {options : AgentOptions} {around : Surroundings} {wire : Wire}

/-! ## Activities -/

/-- What goes alike on the hosts goes alike in the worlds. -/
theorem parallel_onHost {ε α β : Type} {Q : α → β → Prop} (wrap : ε → BootstrapError) {act : HostM ε α}
    {act' : HostM ε β} (h : Parallel (Host.Twins R) Q act act') :
    Parallel (World.Twins R key key') Q (onHost wrap act) (onHost wrap act') := by
  intro world other hworlds
  obtain ⟨hresult, hhost⟩ := h world.host other.host hworlds.host
  rw [onHost_apply, onHost_apply]
  generalize (act world.host).1 = result at hresult ⊢
  generalize (act' other.host).1 = result' at hresult ⊢
  cases hresult with
  | ok hvalue => exact ⟨.ok hvalue, hhost, hworlds.now, hworlds.dials, hworlds.link⟩
  | error error => exact ⟨.error _, hhost, hworlds.now, hworlds.dials, hworlds.link⟩

theorem parallel_report (events : List Log.Event) :
    Parallel (World.Twins R key key') (· = ·) (report events) (report events) :=
  fun _ _ hworlds ↦ ⟨.ok rfl, hworlds.reporting events⟩

/-- Connecting has nothing to do with the secret. -/
theorem parallel_connect {settings settings' : Settings} (h : settings.anonymous = settings'.anonymous) :
    Parallel (World.Twins R key key') (· = ·) (connect options around settings)
      (connect options { around with wire } settings') := by
  intro world other hworlds
  have hcontrollers : settings.anonymous.controllers = settings'.anonymous.controllers := by rw [h]
  replace hcontrollers : settings.controllers = settings'.controllers := hcontrollers
  have hdialing : dialing options { around with wire } settings' other.now =
      dialing options around settings world.now := by
    unfold dialing
    rw [hcontrollers, hworlds.now]
  rw [connect_apply, connect_apply, hdialing]
  refine ⟨agree_eq_iff.2 rfl, World.Twins.reporting ?_ _⟩
  exact ⟨hworlds.host, rfl, rfl, hworlds.link⟩

/-- Registering goes alike under either key. -/
theorem parallel_register (hkeys : Paired key key') (hwire : around.wire.Twins key key' wire)
    (identity : Control.Identity) (target : String) :
    Parallel (World.Twins R key key') (· = ·) (register options around identity key target)
      (register options { around with wire } identity key' target) := by
  intro world other hworlds
  have hlink : Link.Twins R key key' (newLink around key target)
      (newLink { around with wire } key' target) := ⟨rfl, rfl, rfl, hwire, .nil⟩
  have hexchange : Control.Exchange.Twins R key key' { link := newLink around key target }
      { link := newLink { around with wire } key' target } := ⟨hlink, rfl⟩
  obtain ⟨htrial, hevents⟩ := options.registrar.twins_register identity hkeys hworlds.host.tree options.backoff
    around.poolDraws world.now around.fuel hexchange
  rw [register_apply, register_apply]
  unfold registering
  rw [← hworlds.now, htrial.verdict, hevents]
  refine ⟨agree_eq_iff.2 rfl, World.Twins.reporting ?_ _⟩
  exact ⟨hworlds.host, htrial.moment, hworlds.dials, .some htrial.state.link⟩

/-- Between the agents that came up nothing differs but what their stores know of the secret. -/
structure Twins (agent other : Agent) : Prop where
  identity : agent.identity = other.identity
  pool : agent.pool = other.pool

/-- What is read of the identities: the same names, and secrets that give the keys. -/
def GivesKeys (key key' : Codec.Key) : IdentityFile → String → String → Prop
  | .systemId, systemId, systemId' => systemId = systemId'
  | .secret, secret, secret' =>
    Codec.Key.ofSecret secret = .ok key ∧ Codec.Key.ofSecret secret' = .ok key'

/-- Coming up goes alike under two secrets. -/
theorem parallel_bootstrap (hkeys : Paired key key') (hwire : around.wire.Twins key key' wire)
    (hreads : Store.ReadTwins R (GivesKeys key key') options.settingsFile options.identityDir) :
    Parallel (World.Twins R key key') Twins (bootstrap options around)
      (bootstrap options { around with wire }) := by
  have hopen : Parallel (World.Twins R key key') (Store.Twins (GivesKeys key key'))
      (onHost .settings (Store.openFile options.settingsFile options.identityDir))
      (onHost .settings (Store.openFile options.settingsFile options.identityDir)) :=
    parallel_onHost .settings (Store.parallel_load rfl hreads)
  unfold bootstrap
  refine hopen.bind fun store store' hstores ↦ ?_
  obtain ⟨hkey, hkey'⟩ := hstores.settings.secret
  have hidentity : identityOf store.settings = identityOf store'.settings := by
    have hcluster : store.settings.anonymous.clusterId = store'.settings.anonymous.clusterId := by
      rw [hstores.settings.anonymous]
    replace hcluster : store.settings.clusterId = store'.settings.clusterId := hcluster
    have hsystemId : store.settings.systemId = store'.settings.systemId := hstores.settings.systemId
    rw [identityOf, identityOf, hcluster, hsystemId]
  simp only [hkey, hkey']
  refine (parallel_connect hstores.settings.anonymous).bind ?_
  rintro target _ rfl
  change Parallel _ _ (register options around (identityOf store.settings) key target >>= _)
    (register options { around with wire } (identityOf store'.settings) key' target >>= _)
  rw [← hidentity]
  refine (parallel_register hkeys hwire _ target).bind ?_
  rintro pool _ rfl
  exact .pure ⟨hidentity, rfl⟩

/-! ## Serving -/

theorem parallel_work (plan : StopPlan) : Parallel (World.Twins R key key') (· = ·) (work plan) (work plan) := by
  cases plan with
  | never => exact .throw Halt.unfinished
  | after millis signal? =>
    refine Parallel.bind (Q := (· = ·)) ?_ fun _ _ _ ↦ parallel_report _
    intro world other hworlds
    exact ⟨.ok rfl, hworlds.host, congrArg (· + millis) hworlds.now, hworlds.dials, hworlds.link⟩

theorem parallel_stop (hkeys : Paired key key') {agent other : Agent} (h : agent.Twins other) :
    Parallel (World.Twins R key key') (· = ·) agent.stop other.stop := by
  intro world world' hworlds
  have hlinks := hworlds.link
  unfold stop
  rw [bind_of_ok (get_apply world), bind_of_ok (get_apply world')]
  cases hlink : world.link? <;> cases hlink' : world'.link? <;> rw [hlink, hlink'] at hlinks <;> dsimp only
  · exact ⟨.ok rfl, hworlds⟩
  · cases hlinks
  · cases hlinks
  · cases hlinks with
    | some hlinks =>
      obtain ⟨hevents, hlater⟩ := agent.pool.twins_stop hkeys hworlds.host.tree world.now hlinks
      rw [← h.pool, ← hworlds.now, hevents]
      exact parallel_report _ _ _ ⟨hworlds.host, rfl, hworlds.dials, .some hlater⟩

section

variable {start : FileTree} {content content' : ByteArray}

/-- The pid file is not the file with the secret. -/
theorem goal_pidPath_ne (start : FileTree) (directory : Path) (options : AgentOptions) :
    start.goal (pidPath directory) ≠ start.goal options.secretPath := by
  have hname : Path.IsEntryName "fleetd-agent.pid".toList := by decide
  have hgoal : start.goal (pidPath directory) = start.goal directory ++ ["fleetd-agent.pid".toList] :=
    start.goal_join directory hname
  rw [hgoal, AgentOptions.secretPath, IdentityFile.goal_path]
  intro hsame
  have hlast := (List.append_inj' hsame rfl).2
  exact absurd hlast (by decide)

/-- The pid file is written alike, and it is not the file with the secret. -/
theorem parallel_writePidFile (pid : Nat) :
    Parallel (World.Twins (FileTree.Guarded start options.secretPath content content') key key')
      (fun file? file?' ↦ file? = file?' ∧ ∀ file ∈ file?, start.goal file.path ≠ start.goal options.secretPath)
      (writePidFile options pid) (writePidFile options pid) := by
  unfold writePidFile
  cases options.pidDir? with
  | none => exact .pure ⟨rfl, nofun⟩
  | some directory =>
    have hpath := goal_pidPath_ne start directory options
    refine (parallel_onHost Empty.elim (Host.parallel_outcome (PidFile.parallel_create directory pid hpath))).bind ?_
    intro result result' hresult
    cases hresult with
    | ok hfiles =>
      obtain ⟨rfl, rfl⟩ := hfiles
      exact .pure ⟨rfl, by rintro file ⟨⟩; exact hpath⟩
    | error fault => exact (parallel_report _).bind fun _ _ _ ↦ .pure ⟨rfl, nofun⟩

/-- Serving goes alike under two secrets. -/
theorem parallel_serve (hkeys : Paired key key') {agent other : Agent} (h : agent.Twins other)
    (plan : StopPlan) :
    Parallel (World.Twins (FileTree.Guarded start options.secretPath content content') key key') (· = ·)
      (agent.serve options around plan) (other.serve options { around with wire } plan) := by
  have hstarted : agent.started = other.started := by
    unfold started
    rw [h.identity, h.pool]
  unfold serve
  rw [hstarted]
  refine (parallel_writePidFile around.pid).bind ?_
  rintro file? _ ⟨rfl, hfile⟩
  refine (parallel_report _).bind fun _ _ _ ↦ (parallel_work plan).bind fun _ _ _ ↦ ?_
  refine (parallel_stop hkeys h).bind fun _ _ _ ↦ (parallel_report _).bind fun _ _ _ ↦ ?_
  cases file? with
  | none => exact .pure rfl
  | some file => exact parallel_onHost Empty.elim (PidFile.parallel_drop file (hfile file rfl))

end

/-- So does giving up for want of signals. -/
theorem parallel_abandon (hkeys : Paired key key') {agent other : Agent} (h : agent.Twins other)
    (reason : String) :
    Parallel (World.Twins R key key') (· = ·) (agent.abandon reason) (other.abandon reason) :=
  (parallel_report _).bind fun _ _ _ ↦ parallel_stop hkeys h

/-! ## Whole runs -/

/-- What can be seen of two runs is the same: how they end, what they reported, when and whom they dialed, what
they sent, and the files but for the secret, which is what it was. -/
structure Ran.LooksLike (start : FileTree) (guarded : Path) (content content' : ByteArray) (ran other : Ran) :
    Prop where
  exit : ran.exit? = other.exit?
  prepared : ran.prepared = other.prepared
  hosts : Host.Twins (FileTree.Guarded start guarded content content') ran.world.host other.world.host
  now : ran.world.now = other.world.now
  dials : ran.world.dials = other.world.dials
  sent : List.Forall₂ (Sent.Twins (FileTree.Guarded start guarded content content')) ran.world.sent
    other.world.sent

variable {start : FileTree} {guarded : Path} {content content' : ByteArray} {host host' : Host}

theorem looksLike_of_twins {exit? : Option UInt8} {prepared : Bool} {world other : World}
    (h : world.Twins (FileTree.Guarded start guarded content content') key key' other) :
    Ran.LooksLike start guarded content content' ⟨exit?, prepared, world⟩ ⟨exit?, prepared, other⟩ :=
  ⟨rfl, rfl, h.host, h.now, h.dials, h.sent⟩

/-- Runs look alike when their bootstraps do. -/
theorem looksLike_run (hkeys : Paired key key')
    (hboot : Parallel (World.Twins (FileTree.Guarded start options.secretPath content content') key key') Twins
      (bootstrap options around) (bootstrap options { around with wire }))
    (hhosts : Host.Twins (FileTree.Guarded start options.secretPath content content') host host')
    (preparing : Except String StopPlan) :
    Ran.LooksLike start options.secretPath content content' (run options around preparing host)
      (run options { around with wire } preparing host') := by
  obtain ⟨hresult, hworlds⟩ := hboot { host } { host := host' } ⟨hhosts, rfl, rfl, .none⟩
  unfold run
  rcases hrun : bootstrap options around { host } with ⟨result, up⟩
  rcases hrun' : bootstrap options { around with wire } { host := host' } with ⟨result', up'⟩
  rw [hrun, hrun'] at hresult hworlds
  cases hresult with
  | error halt =>
    cases halt with
    | failed error => exact looksLike_of_twins (hworlds.reporting [failed error])
    | broken => exact looksLike_of_twins hworlds
    | unfinished => exact looksLike_of_twins hworlds
  | @ok agent agent' hagents =>
    cases preparing with
    | error reason => exact looksLike_of_twins (parallel_abandon hkeys hagents reason up up' hworlds).2
    | ok plan =>
      obtain ⟨hserved, hafter⟩ := parallel_serve hkeys hagents plan up up' hworlds
      dsimp only
      rcases hserve : agent.serve options around plan up with ⟨served, after⟩
      rcases hserve' : agent'.serve options { around with wire } plan up' with ⟨served', after'⟩
      rw [hserve, hserve'] at hserved hafter
      cases hserved with
      | ok _ => exact looksLike_of_twins hafter
      | error halt => exact looksLike_of_twins hafter

/-- Blanks around a secret make no difference to its key. -/
theorem ofSecret_strip (secret : String) :
    Codec.Key.ofSecret (Text.strip secret) = Codec.Key.ofSecret secret := by
  rw [Codec.Key.ofSecret, Codec.Key.ofSecret, Text.strip_strip]

/-- Trees that differ in the secret alone are read alike, and the secrets in them give the keys. -/
theorem readTwins_guarded {secret secret' : String}
    (hapart : start.goal options.settingsFile ≠ start.goal options.secretPath)
    (hkey : Codec.Key.ofSecret secret = .ok key) (hkey' : Codec.Key.ofSecret secret' = .ok key') :
    Store.ReadTwins (FileTree.Guarded start options.secretPath secret.toUTF8 secret'.toUTF8)
      (GivesKeys key key') options.settingsFile options.identityDir := by
  refine ⟨fun tree tree' htrees ↦ htrees.read hapart, fun file ↦ ?_⟩
  cases file with
  | systemId =>
    have hother := IdentityFile.goal_path_ne start options.identityDir
    exact IdentityFile.systemId.parallel_read fun tree tree' htrees ↦ htrees.read hother
  | secret =>
    refine IdentityFile.secret.parallel_read_of_texts fun tree tree' htrees ↦ ?_
    refine ⟨secret, secret', ⟨?_, ?_⟩, htrees.holds.read, htrees.holds'.read⟩
    · rw [ofSecret_strip, hkey]
    · rw [ofSecret_strip, hkey']

/-- Two runs that differ in the secret, in nonces and in what follows from these look alike: they end alike,
report the same, send the same in frames of the same lengths at the same times, and do the same to the files. -/
theorem run_conceals_secret (options : AgentOptions) (around : Surroundings) (wire : Wire)
    (preparing : Except String StopPlan) {host host' : Host} {secret secret' : String} {key key' : Codec.Key}
    (hhosts : Host.Twins (FileTree.Alike (· = host.tree.goal options.secretPath)) host host')
    (hapart : host.tree.goal options.settingsFile ≠ host.tree.goal options.secretPath)
    (hsecret : host.tree.read options.secretPath = .ok secret.toUTF8)
    (hsecret' : host'.tree.read options.secretPath = .ok secret'.toUTF8)
    (hkey : Codec.Key.ofSecret secret = .ok key) (hkey' : Codec.Key.ofSecret secret' = .ok key')
    (hwire : around.wire.Twins key key' wire) :
    Ran.LooksLike host.tree options.secretPath secret.toUTF8 secret'.toUTF8
      (run options around preparing host) (run options { around with wire } preparing host') := by
  have hkeys : Paired key key' :=
    ⟨Codec.Key.length_id_of_ofSecret hkey, Codec.Key.length_id_of_ofSecret hkey'⟩
  have hguarded : Host.Twins
      (FileTree.Guarded host.tree options.secretPath secret.toUTF8 secret'.toUTF8) host host' :=
    hhosts.mono fun htrees ↦ ⟨htrees, rfl, AgentOptions.holds_secret hsecret, AgentOptions.holds_secret hsecret'⟩
  exact looksLike_run hkeys (parallel_bootstrap hkeys hwire (readTwins_guarded hapart hkey hkey')) hguarded
    preparing

def filesWith (secret : String) : FileTree where
  root := .dir
    [("agent.yaml".toList, .file "controllers: 10.0.0.1\n".toUTF8), ("secret".toList, .file secret.toUTF8),
     ("system_id".toList, .file "node-1\n".toUTF8)]

/-- The acknowledgement that accepts a registration, in a frame under the key. -/
def framedAck (key : Codec.Key) (nonce : UInt8) (id : UInt64) : Json.Bytes :=
  key.frame (List.replicate 12 nonce) (Control.Ack.mk id true none).toBytes

/-- The first attempt fails, the second one is accepted behind an acknowledgement that comes too late, and the
departure is not sent. -/
def secondChance (key : Codec.Key) (nonce : UInt8) : Wire where
  nonces _ := List.replicate 12 nonce
  replies := [⟨0, .error (.receive "connection reset")⟩, ⟨0, .ok (framedAck key nonce 1)⟩,
    ⟨0, .ok (framedAck key nonce 2)⟩]
  sendFaults := [none, none, some (.send "broken pipe")]

theorem twins_secondChance (key key' : Codec.Key) (nonce nonce' : UInt8) :
    (secondChance key nonce).Twins key key' (secondChance key' nonce') := by
  have hshort (id : UInt64) (hid : id = 1 ∨ id = 2) :
      Cipher.Sealing.tooLong (Control.Ack.mk id true none).toBytes = false := by
    rcases hid with rfl | rfl <;> decide +kernel
  have hframed (id : UInt64) (hid : id = 1 ∨ id = 2) :
      Reply.Twins key key' ⟨0, .ok (framedAck key nonce id)⟩ ⟨0, .ok (framedAck key' nonce' id)⟩ :=
    .framed 0 rfl rfl (Codec.Key.encode_eq_frame (hshort id hid)) (Codec.Key.encode_eq_frame (hshort id hid))
  refine ⟨fun _ ↦ rfl, fun _ ↦ rfl, ?_, rfl⟩
  exact .cons (.failure 0 _) (.cons (hframed 1 (.inl rfl)) (.cons (hframed 2 (.inr rfl)) .nil))

/-- Options with a directory for the pid file, and time for some attempts. -/
def steadfast : AgentOptions := { persistent with pidDir? := some (.ofString "/run/fleet") }

/-- Under two secrets of which the second one is written in other letters and has a blank in front of it. -/
theorem steadfast_conceals_secret :
    let secret := "00112233445566778899aabbccddeeff\n"
    let secret' := " FFEEDDCCBBAA99887766554433221100"
    let key := Codec.Key.derive Codec.Key.secretBytes
    let key' := Codec.Key.derive otherBytes
    let around : Surroundings := { dialer := fun _ _ ↦ .after 0 (.ok ()), wire := secondChance key 0, fuel := 5 }
    let plan : Except String StopPlan := .ok (.after 5 (some .terminate))
    let host : Host := { tree := filesWith secret }
    let host' : Host := { tree := filesWith secret' }
    Host.Twins (FileTree.Alike (· = host.tree.goal steadfast.secretPath)) host host' ∧
      host.tree.goal steadfast.settingsFile ≠ host.tree.goal steadfast.secretPath ∧
      Codec.Key.ofSecret secret = .ok key ∧ Codec.Key.ofSecret secret' = .ok key' ∧ key ≠ key' ∧
      Ran.LooksLike host.tree steadfast.secretPath secret.toUTF8 secret'.toUTF8
        (run steadfast around plan host)
        (run steadfast { around with wire := secondChance key' 7 } plan host') ∧
      (run steadfast around plan host).exit? = some 0 ∧ (run steadfast around plan host).world.sent.length = 3 := by
  intro secret secret' key key' around plan host host'
  have hread : (filesWith secret).read steadfast.secretPath = .ok secret.toUTF8 := rfl
  have hread' : (filesWith secret').read steadfast.secretPath = .ok secret'.toUTF8 := rfl
  have hholds : (filesWith secret).Holds steadfast.secretPath secret.toUTF8 :=
    AgentOptions.holds_secret hread
  have hhosts : Host.Twins (FileTree.Alike (· = host.tree.goal steadfast.secretPath)) host host' :=
    ⟨hholds.alike_put secret'.toUTF8 rfl, rfl, rfl, rfl⟩
  have hapart : host.tree.goal steadfast.settingsFile ≠ host.tree.goal steadfast.secretPath := by decide
  have hkeys : Text.Hex.read (Text.strip secret).toUTF8.toList = .ok Codec.Key.secretBytes ∧
      Text.Hex.read (Text.strip secret').toUTF8.toList = .ok otherBytes ∧ key.id ≠ key'.id := by
    decide +kernel
  obtain ⟨hraw, hraw', hid⟩ := hkeys
  have hkey : Codec.Key.ofSecret secret = .ok key := by
    rw [Codec.Key.ofSecret, hraw]
    rfl
  have hkey' : Codec.Key.ofSecret secret' = .ok key' := by
    rw [Codec.Key.ofSecret, hraw']
    rfl
  have hruns : (run steadfast around plan host).exit? = some 0 ∧
      (run steadfast around plan host).world.sent.length = 3 := by
    decide +kernel
  exact ⟨hhosts, hapart, hkey, hkey', fun hsame ↦ hid (congrArg Codec.Key.id hsame),
    run_conceals_secret steadfast around _ plan hhosts hapart hread hread' hkey hkey'
      (twins_secondChance key key' 0 7), hruns⟩

end Agent

end FleetAgent
