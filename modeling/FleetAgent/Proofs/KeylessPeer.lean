import FleetAgent.Proofs.OwnFrames
import FleetAgent.Proofs.ReplyLedger
import FleetAgent.Proofs.StageOrder

/-!
# A peer without the key

Whoever does not have the key of the agent can send what is no frame, frames under a key with another
fingerprint, and nothing at all. None of this is read as a payload, so the first reply of an attempt
decides it, with a failure; no attempt ends with a pool, whatever the replies say, and the agent does not
come up.
-/

namespace FleetAgent

/-! ## What a key does not read -/

namespace Codec.Key

variable {key other : Key} {nonce payload bytes : List UInt8}

/-- A frame that a key opens shows the fingerprint of that key. -/
theorem id_of_decode (h : key.decode bytes = .ok payload) : (bytes.drop 1).take idSize = key.id := by
  unfold decode at h
  split at h
  · cases h
  · split at h
    · cases h
    · split at h
      · cases h
      · next hid => exact not_not.1 hid

theorem id_of_encode (hid : key.id.length = idSize) (h : key.encode nonce payload = .ok bytes) :
    (bytes.drop 1).take idSize = key.id := by
  obtain ⟨-, rfl⟩ := eq_frame_of_encode h
  rw [frame_eq, List.drop_one, List.tail_cons, ← hid, List.take_left]

/-- A frame under another key carries another fingerprint. -/
theorem unread_of_foreign {secret : String} (hother : ofSecret secret = .ok other)
    (hid : other.id ≠ key.id) (hframe : other.encode nonce payload = .ok bytes) (text : List UInt8) :
    key.decode bytes ≠ .ok text := by
  intro hread
  apply hid
  rw [← id_of_encode (length_id_of_ofSecret hother) hframe, id_of_decode hread]

/-- Whatever is read was framed under the nonce that it carries. -/
theorem encode_of_decode (h : key.decode bytes = .ok payload) :
    ∃ nonce, nonce.length = nonceSize ∧ key.encode nonce payload = .ok bytes := by
  obtain ⟨hshort, hframe⟩ := eq_frame_of_decode h
  have hleast := leastSize_le_of_decode h
  refine ⟨(bytes.drop (1 + idSize)).take nonceSize, ?_, ?_⟩
  · rw [List.length_take, List.length_drop]
    simp only [leastSize, headerSize] at hleast
    omega
  · rw [encode_eq_frame hshort, ← hframe]

end Codec.Key

namespace Control

open Codec (Key)

/-- What can be received from someone without the key. -/
inductive Keyless (key : Key) : Except ConnectError Json.Bytes → Prop where
  | failure (error : ConnectError) : Keyless key (.error error)
  /-- A frame under a key with another fingerprint. -/
  | foreign {secret : String} {other : Key} {nonce payload bytes : Json.Bytes}
      (hother : Key.ofSecret secret = .ok other) (hid : other.id ≠ key.id)
      (hframe : other.encode nonce payload = .ok bytes) : Keyless key (.ok bytes)
  /-- Bytes that the key makes of no payload. -/
  | raw {bytes : Json.Bytes}
      (hbytes : ∀ nonce payload, nonce.length = Codec.nonceSize → key.encode nonce payload ≠ .ok bytes) :
      Keyless key (.ok bytes)

/-- A link over which nothing is received with success. -/
def Link.Deaf (link : Link) : Prop :=
  ∃ key, link.key = some key ∧ ∀ reply ∈ link.wire.replies, Keyless key reply.content

/-- Nothing from someone without the key is opened by it. -/
theorem Keyless.unread {key : Key} {bytes : Json.Bytes} (h : Keyless key (.ok bytes))
    (payload : Json.Bytes) : key.decode bytes ≠ .ok payload := by
  intro hread
  cases h with
  | foreign hother hid hframe => exact Key.unread_of_foreign hother hid hframe payload hread
  | raw hbytes =>
    obtain ⟨nonce, hnonce, hframe⟩ := Key.encode_of_decode hread
    exact hbytes nonce payload hnonce hframe

theorem Link.Deaf.received {link : Link} (h : link.Deaf) :
    ∀ reply ∈ link.wire.replies, ∃ error, link.received reply = .error error := by
  obtain ⟨key, hkey, hreplies⟩ := h
  intro reply hreply
  have hkeyless := hreplies reply hreply
  cases hcontent : reply.content with
  | error error => exact ⟨error, by rw [Link.received, hcontent]; rfl⟩
  | ok bytes =>
    rw [hcontent] at hkeyless
    cases hread : key.decode bytes with
    | ok payload => exact absurd hread (hkeyless.unread payload)
    | error fault =>
      refine ⟨.codec fault, ?_⟩
      change Except.bind reply.content link.unpack = _
      simp [hcontent, Except.bind, Link.unpack, hkey, hread, Except.mapError]

/-! ## No attempt succeeds -/

/-- No wait ends with success for want of replies. -/
theorem Window.expire_ne_success (window : Window) (now moment : Moment) :
    window.expire now ≠ .done moment (.ok ()) := by
  intro h
  obtain ⟨-, -, hresult⟩ := expire_eq_done_iff.1 h
  cases hresult

/-- The first reply in time decides, since it is not even received as an acknowledgement of another
registration. -/
theorem await_ne_success {link : Link} {replies : List Reply}
    (h : ∀ reply ∈ replies, ∃ error, link.received reply = .error error) (window : Window)
    (now moment : Moment) : (await link window now replies).ended ≠ .done moment (.ok ()) := by
  cases replies with
  | nil => exact window.expire_ne_success now moment
  | cons reply rest =>
    obtain ⟨error, hreceived⟩ := h reply (.head _)
    by_cases hreached : window.reaches now (max now reply.moment) = true
    · simp [await, hreached, meant_of_unreceived window.id hreceived]
    · simp only [await, hreached]
      exact window.expire_ne_success now moment

/-- None of the attempts ended with a pool. -/
def Refused (tries : List (Try PoolError Pool)) : Prop :=
  ∀ this ∈ tries, ∀ moment pool, this.ended ≠ .done moment (.ok pool)

namespace Registrar

variable (registrar : Registrar) (identity : Identity) (files : FileTree)

/-- Over a link on which nothing is received no attempt to register gives a pool. -/
theorem run_ne_pool {exchange : Exchange} (h : exchange.link.Deaf) (now deadline moment : Moment)
    (pool : Pool) :
    ((registrar.attempt identity files).run now deadline exchange).ended ≠ .done moment (.ok pool) := by
  intro hended
  cases hsent : (registrar.sending identity files now exchange).1 with
  | error error =>
    rw [registrar.run_of_unsent identity files deadline hsent] at hended
    cases hended
  | ok done =>
    cases hcloses : Clock.deadline? now registrar.ackTimeout with
    | none =>
      rw [registrar.run_of_untellable identity files deadline hsent hcloses] at hended
      cases hended
    | some closes =>
      rw [registrar.run_of_sent identity files deadline hsent hcloses, Ended.giving_eq_done_iff] at hended
      obtain ⟨_ | _, hawaited, hresult⟩ := hended
      · cases hresult
      · exact await_ne_success h.received _ now moment hawaited

/-- What is left of the replies after an attempt was among them before. -/
theorem deaf_run {exchange : Exchange} (h : exchange.link.Deaf) (now deadline : Moment) :
    ((registrar.attempt identity files).run now deadline exchange).state.link.Deaf := by
  obtain ⟨key, hkey, hreplies⟩ := h
  obtain ⟨intake, hbooks⟩ := registrar.attempt_books identity files now deadline exchange none
  refine ⟨key, hbooks.key.trans hkey, fun reply hreply ↦ hreplies reply ?_⟩
  rw [hbooks.queue]
  exact List.mem_append_right _ hreply

/-- No attempt of a sequence ends with a pool, and so the sequence does not. -/
theorem register_ne_pool (backoff : Backoff) (draws : Nat → Float) (start : Moment) (fuel : Nat)
    {exchange : Exchange} (h : exchange.link.Deaf) :
    let trial := (registrar.register identity files backoff draws start fuel exchange).trial
    Refused trial.tries ∧ ∀ pool, trial.verdict ≠ .success pool := by
  intro trial
  have htries : Refused trial.tries ∧ trial.state.link.Deaf := by
    apply Retry.run_tries (P := fun tries (after : Exchange) ↦ Refused tries ∧ after.link.Deaf)
    · exact ⟨nofun, h⟩
    · rintro tries state now pause ⟨htries, hdeaf⟩
      refine ⟨fun this hthis ↦ ?_, registrar.deaf_run identity files hdeaf now _⟩
      rcases List.mem_append.1 hthis with hearlier | hlast
      · exact htries this hearlier
      · obtain rfl := List.mem_singleton.1 hlast
        exact registrar.run_ne_pool identity files hdeaf now _
  refine ⟨htries.1, fun pool hsuccess ↦ ?_⟩
  obtain ⟨this, hthis, moment, hended⟩ := Retry.exists_of_success hsuccess
  exact htries.1 this hthis moment pool hended

end Registrar

end Control

/-! ## The whole run -/

namespace Agent

variable {options : AgentOptions} {around : Surroundings} {preparing : Except String StopPlan}
  {host : Host}

/-- All that can be received comes from someone without the key. -/
def AmongStrangers (options : AgentOptions) (around : Surroundings) (host : Host) : Prop :=
  ∀ store key keyed, Keyed options { host } store key keyed →
    ∀ reply ∈ around.wire.replies, Control.Keyless key reply.content

/-- What holds of a run that gets no pool. -/
structure ShutOut (options : AgentOptions) (around : Surroundings) (preparing : Except String StopPlan)
    (host : Host) (ran : Ran) : Prop where
  exit_ne : ran.exit? ≠ some 0
  unprepared : ran.prepared = false
  down : ¬ ComesUp options around host
  /-- No attempt to register ends with a pool. -/
  refused : ∀ store key target connected,
    Connected options around { host } store key target connected →
      Control.Refused
        (registering options around (identityOf store.settings) key target connected).trial.tries
  staying : ∀ sent ∈ ran.world.sent, ¬ sent.IsDeparture
  /-- A run that comes to register and to an exit fails there. -/
  failure : ∀ store key target connected code,
    Connected options around { host } store key target connected → ran.exit? = some code →
      code = 1 ∧ ∃ cause, FailsAt options around preparing host "worker_pool" (.pool cause) ∧
        Host.Reports [⟨.error, "fleetd_agent", "Agent bootstrap failed",
          [("stage", .text "worker_pool"), ("error", .shown (BootstrapError.pool cause).message)]⟩]
          host ran.world.host

theorem Connected.keyed {world connected : World} {store : Store} {key : Codec.Key} {target : String}
    (h : Connected options around world store key target connected) :
    ∃ keyed, Keyed options world store key keyed := by
  obtain ⟨keyed, hkeyed, -⟩ := h
  exact ⟨keyed, hkeyed⟩

/-- An agent that is connected goes on to register. -/
theorem Connected.bootstrap_eq {world connected : World} {store : Store} {key : Codec.Key}
    {target : String} (h : Connected options around world store key target connected) :
    bootstrap options around world =
      (register options around (identityOf store.settings) key target >>= fun pool ↦
        pure (⟨store, identityOf store.settings, pool⟩ : Agent)) connected := by
  obtain ⟨keyed, hkeyed, hconnect⟩ := h
  have hopened : onHost .settings (Store.openFile options.settingsFile options.identityDir) world =
      (.ok store, keyed) := hkeyed.opened
  unfold bootstrap
  rw [bind_of_ok hopened]
  simp only [hkeyed.secret]
  rw [bind_of_ok hconnect]
  rfl

/-- No attempt to register ends with a pool, and so the sequence of them does not. -/
theorem AmongStrangers.registering_ne_pool {connected : World} {store : Store} {key : Codec.Key}
    {target : String} (h : AmongStrangers options around host)
    (hconnected : Connected options around { host } store key target connected)
    (identity : Control.Identity) :
    let trial := (registering options around identity key target connected).trial
    Control.Refused trial.tries ∧ ∀ pool, trial.verdict ≠ .success pool := by
  obtain ⟨keyed, hkeyed⟩ := hconnected.keyed
  have hdeaf : (newLink around key target).Deaf := ⟨key, rfl, h store key keyed hkeyed⟩
  exact options.registrar.register_ne_pool identity connected.host.tree options.backoff around.poolDraws
    connected.now around.fuel hdeaf

/-- Among strangers no agent comes up. -/
theorem AmongStrangers.not_comesUp (h : AmongStrangers options around host) :
    ¬ ComesUp options around host := by
  rintro ⟨agent, up, hup⟩
  have hspec := bootstrap_spec options around { host }
  rw [hup] at hspec
  cases hspec with
  | up hconnected hregister =>
    exact (h.registering_ne_pool hconnected _).2 _ (settled_eq_ok (register_eq hregister).1)

/-- A run that does not come up ends with its bootstrap. -/
theorem run_of_not_comesUp (preparing : Except String StopPlan) (h : ¬ ComesUp options around host) :
    ∃ halt after, bootstrap options around { host } = (.error halt, after) ∧
      (run options around preparing host).prepared = false ∧
      (run options around preparing host).exit? ≠ some 0 ∧
      (run options around preparing host).world.sent = after.sent := by
  rcases hboot : bootstrap options around { host } with ⟨halt | agent, after⟩
  · refine ⟨halt, after, rfl, ?_⟩
    unfold run
    rw [hboot]
    cases halt <;> exact ⟨rfl, by simp, rfl⟩
  · exact absurd ⟨agent, after, hboot⟩ h

/-- A peer without the key never gets a pool out of the agent, whatever it sends and whenever. -/
theorem run_shutOut (options : AgentOptions) (around : Surroundings)
    (preparing : Except String StopPlan) (host : Host) (h : AmongStrangers options around host) :
    ShutOut options around preparing host (run options around preparing host) := by
  obtain ⟨halt, after, hboot, hunprepared, hexit, hsent⟩ :=
    run_of_not_comesUp preparing h.not_comesUp
  have hspec := bootstrap_spec options around { host }
  rw [hboot] at hspec
  constructor
  case exit_ne => exact hexit
  case unprepared => exact hunprepared
  case down => exact h.not_comesUp
  case refused =>
    intro store key target connected hconnected
    exact (h.registering_ne_pool hconnected _).1
  case staying =>
    intro sent hmem
    rw [hsent] at hmem
    obtain ⟨connected, hannounced⟩ := hspec.announced_of_link rfl fun hnone ↦
      List.ne_nil_of_mem hmem (World.sent_eq_nil hnone)
    exact (hannounced.sent sent hmem).2.not_departure
  case failure =>
    intro store key target connected code hconnected hcode
    have hregister : register options around (identityOf store.settings) key target connected =
        (.error halt, after) := by
      rw [hconnected.bootstrap_eq] at hboot
      rcases bind_eq_error hboot with hregister | ⟨pool, middle, -, hnever⟩
      · exact hregister
      · cases hnever
    unfold run at hcode ⊢
    rw [hboot] at hcode ⊢
    cases halt with
    | failed error =>
      obtain ⟨cause, -, rfl⟩ := settled_eq_failed (register_eq hregister).1
      refine ⟨(Option.some.inj hcode).symm, cause, .pool hconnected hregister, ?_⟩
      exact hspec.looks.1.trans ⟨[failed (.pool cause)], rfl, rfl⟩
    | broken => cases hcode
    | unfinished => cases hcode

def otherBytes : List UInt8 :=
  [0xff, 0xee, 0xdd, 0xcc, 0xbb, 0xaa, 0x99, 0x88, 0x77, 0x66, 0x55, 0x44, 0x33, 0x22, 0x11, 0x00]

def plainWelcome : Json.Bytes := (Control.Ack.mk 1 true none).toBytes

/-- Someone without the key fails to answer, and then accepts the first registration, once under a key of
its own and once under none. -/
def strangers : Surroundings where
  dialer _ _ := .after 0 (.ok ())
  wire :=
    { nonces _ := List.replicate 12 0
      replies := [⟨0, .error (.receive "connection reset")⟩,
        ⟨0, .ok ((Codec.Key.derive otherBytes).frame (List.replicate 12 0) plainWelcome)⟩,
        ⟨0, .ok plainWelcome⟩] }
  fuel := 5

def persistent : AgentOptions :=
  { hasty with backoff := { initialInterval := .ofMillis 1, randomization := 0, maxElapsed := .ofMillis 10 } }

theorem ofSecret_otherBytes : Codec.Key.ofSecret "ffeeddccbbaa99887766554433221100" =
    .ok (Codec.Key.derive otherBytes) :=
  Codec.Key.ofSecret_of_read (by decide +kernel) (.inl rfl)

theorem keyless_plainWelcome (key : Codec.Key) : Control.Keyless key (.ok plainWelcome) := by
  apply Control.Keyless.raw
  intro nonce payload _ hframe
  have hversion : plainWelcome.headD 0 = Codec.version := by
    unfold Codec.Key.encode at hframe
    split at hframe
    · rw [← Except.ok.inj hframe]
      rfl
    · cases hframe
  exact absurd hversion (by decide +kernel)

theorem strangers_shutOut :
    AmongStrangers persistent strangers { tree := nodeFiles } ∧
      (run persistent strangers (.ok .never) { tree := nodeFiles }).exit? = some 1 ∧
      (run persistent strangers (.ok .never) { tree := nodeFiles }).world.sent.length = 4 ∧
      ShutOut persistent strangers (.ok .never) { tree := nodeFiles }
        (run persistent strangers (.ok .never) { tree := nodeFiles }) := by
  have hkey {store : Store} {key : Codec.Key} {keyed : World}
      (h : Keyed persistent { host := { tree := nodeFiles } } store key keyed) :
      key = Codec.Key.derive Codec.Key.secretBytes := by
    have hread : (Store.openFile persistent.settingsFile persistent.identityDir
        { tree := nodeFiles }).1.toOption.map (fun store ↦ (Codec.Key.ofSecret store.settings.secret).toOption) =
          some (some (Codec.Key.derive Codec.Key.secretBytes)) := by
      decide +kernel
    obtain ⟨host, hopen, -⟩ := h.opened.after_eq
    rw [hopen] at hread
    simpa [Except.toOption, h.secret] using hread
  have hamong : AmongStrangers persistent strangers { tree := nodeFiles } := by
    intro store key keyed hkeyed reply hreply
    obtain rfl := hkey hkeyed
    simp only [strangers, List.mem_cons, List.not_mem_nil, or_false] at hreply
    rcases hreply with rfl | rfl | rfl
    · exact .failure _
    · have hshort : Cipher.Sealing.tooLong plainWelcome = false := by decide +kernel
      exact .foreign ofSecret_otherBytes (by decide +kernel) (Codec.Key.encode_eq_frame hshort)
    · exact keyless_plainWelcome _
  have hends : (run persistent strangers (.ok .never) { tree := nodeFiles }).exit? = some 1 ∧
      (run persistent strangers (.ok .never) { tree := nodeFiles }).world.sent.length = 4 := by
    decide +kernel
  exact ⟨hamong, hends.1, hends.2, run_shutOut persistent strangers (.ok .never) { tree := nodeFiles } hamong⟩

end Agent

end FleetAgent
