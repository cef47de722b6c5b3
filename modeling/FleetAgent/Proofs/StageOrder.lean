import FleetAgent.Proofs.ElapsedCeiling
import FleetAgent.Proofs.Reports

/-!
# The stages of a run

A run dials, registers, prepares for signals, writes its pid file and works, and it does each of these
only when all that comes before has succeeded. What is seen of a run tells how far it came: the dials,
the payloads that were sent, the files, the time and the errors reported. `Orderly` puts together what
holds of every run that comes to an exit.
-/

namespace FleetAgent

namespace Control

def Sent.IsRegistration (sent : Sent) : Prop :=
  ∃ registration : Registration, sent.payload = registration.toBytes

def Sent.IsDeparture (sent : Sent) : Prop :=
  ∃ departure : Departure, sent.payload = departure.toBytes

theorem writtenObject_cons (name : String) (value : Json.Bytes) (rest : List (String × Json.Bytes)) :
    ∃ more, Json.writtenObject ((name, value) :: rest) =
      Json.openObject :: (Json.quotedText name ++ more) := by
  cases rest <;> simp [Json.writtenObject, Json.separated]

/-- The first fields of the two messages have different names. -/
theorem Sent.IsRegistration.not_departure {sent : Sent} (h : sent.IsRegistration) :
    ¬ sent.IsDeparture := by
  rintro ⟨departure, hdeparture⟩
  obtain ⟨registration, hregistration⟩ := h
  obtain ⟨more, hmore⟩ : ∃ more, registration.toBytes =
      Json.openObject :: (Json.quotedText "registration_id" ++ more) := writtenObject_cons _ _ _
  obtain ⟨rest, hrest⟩ : ∃ rest, departure.toBytes =
      Json.openObject :: (Json.quotedText "system_id" ++ rest) := writtenObject_cons _ _ _
  rw [hregistration, hmore, hrest] at hdeparture
  have hnames := congrArg (List.take 2) (List.cons.inj hdeparture).2
  rw [List.take_append_of_le_length (by decide +kernel),
    List.take_append_of_le_length (by decide +kernel)] at hnames
  exact absurd hnames (by decide +kernel)

/-- A pool that is stopped sends its departure. -/
theorem Pool.sent_stop (pool : Pool) (now : Moment) (files : FileTree) (link : Link) :
    ∃ departure : Sent, departure.moment = now ∧
      departure.payload = (Departure.mk pool.systemId).toBytes ∧
      (pool.stop now files link).2.sent = departure :: link.sent :=
  ⟨_, rfl, rfl, rfl⟩

end Control

/-- What was sent over the connection, the latest first. -/
def World.sent (world : World) : List Control.Sent := world.link?.elim [] (·.sent)

namespace Agent

/-! ## Dialing and registering -/

theorem dialing_dial_le {options : AgentOptions} {around : Surroundings} {settings : Settings}
    {now : Moment} {dial : Control.Dial} (h : dial ∈ (dialing options around settings now).dials) :
    dial.moment ≤ (dialing options around settings now).moment := by
  unfold dialing Control.connect at h ⊢
  cases htarget : Control.target settings.controllers options.port with
  | error error => simp [htarget] at h
  | ok found =>
    obtain ⟨address, events⟩ := found
    simp only [htarget] at h ⊢
    obtain ⟨this, hthis, rfl⟩ := List.mem_map.1 h
    have hhistory := Control.Retry.run_history (P := fun _ ↦ True)
      ⟨Control.dialAttempt around.dialer address, options.backoff, around.connectDraws, now⟩
      (Control.Attempt.timely_ofCourses _ _ _ _) (fun _ _ _ ↦ trivial) around.fuel 0 trivial
    exact (hhistory.2.1 this hthis).2.1

/-- Only an address that was made out is dialed. -/
theorem target_of_dialed {options : AgentOptions} {around : Surroundings} {settings : Settings}
    {now : Moment} (h : (dialing options around settings now).dials ≠ []) :
    ∃ address events, Control.target settings.controllers options.port = .ok (address, events) := by
  unfold dialing Control.connect at h
  cases htarget : Control.target settings.controllers options.port with
  | error error => simp [htarget] at h
  | ok found => exact ⟨found.1, found.2, rfl⟩

/-- All that a registering agent sends are registrations, from the moment on at which it is connected. -/
theorem registering_sent {options : AgentOptions} {around : Surroundings}
    {identity : Control.Identity} {key : Codec.Key} {target : String} {world : World} :
    ∀ sent ∈ (registering options around identity key target world).trial.state.link.sent,
      world.now ≤ sent.moment ∧ sent.IsRegistration := by
  have hhistory := Control.Retry.run_history
    (P := fun exchange : Control.Exchange ↦
      ∀ sent ∈ exchange.link.sent, world.now ≤ sent.moment ∧ sent.IsRegistration)
    ⟨options.registrar.attempt identity world.host.tree, options.backoff, around.poolDraws, world.now⟩
    (options.registrar.attempt_timely identity world.host.tree) ?_ around.fuel
    { link := newLink around key target } (by simp [newLink])
  · exact hhistory.2.2
  · intro stage hbegun hsent
    obtain ⟨latest, hmoment, hpayload, hlatest⟩ := options.registrar.sent_run identity world.host.tree
      stage.moment (Control.Retry.deadline ⟨options.registrar.attempt identity world.host.tree,
        options.backoff, around.poolDraws, world.now⟩) stage.state
    intro sent hmem
    rw [Control.Retry.attempted, hlatest] at hmem
    rcases List.mem_cons.1 hmem with rfl | hearlier
    · exact ⟨hmoment ▸ hbegun, _, hpayload⟩
    · exact hsent sent hearlier

theorem le_registering_moment {options : AgentOptions} {around : Surroundings}
    {identity : Control.Identity} {key : Codec.Key} {target : String} {world : World} :
    world.now ≤ (registering options around identity key target world).trial.moment :=
  (Control.Retry.run_history (P := fun _ ↦ True)
    ⟨options.registrar.attempt identity world.host.tree, options.backoff, around.poolDraws, world.now⟩
    (options.registrar.attempt_timely identity world.host.tree) (fun _ _ _ ↦ trivial) around.fuel
    { link := newLink around key target } trivial).1

/-! ## What a bootstrap leaves behind -/

section

variable {options : AgentOptions} {around : Surroundings} {world after : World}

theorem Opened.looks {store : Store} (h : Opened options world store after) :
    world.host.Looks after.host := by
  obtain ⟨host, hopen, rfl⟩ := h.after_eq
  have hlooks := Host.looks_openFile options.settingsFile options.identityDir world.host
  rwa [hopen] at hlooks

theorem connect_looks {settings : Settings} {result : Except Halt String}
    (h : connect options around settings world = (result, after)) : world.host.Looks after.host := by
  obtain ⟨-, rfl⟩ := connect_eq h
  exact ⟨.of_added _ rfl (Control.harmless_connect _ _ _ _ _ _ _), rfl⟩

theorem register_looks {identity : Control.Identity} {key : Codec.Key} {target : String}
    {result : Except Halt Control.Pool}
    (h : register options around identity key target world = (result, after)) :
    world.host.Looks after.host := by
  obtain ⟨-, rfl⟩ := register_eq h
  exact ⟨.of_added _ rfl (options.registrar.harmless_register _ _ _ _ _ _ _), rfl⟩

theorem Connected.looks {store : Store} {key : Codec.Key} {target : String}
    (h : Connected options around world store key target after) : world.host.Looks after.host := by
  obtain ⟨keyed, hkeyed, hconnect⟩ := h
  exact IsTrans.trans _ _ _ hkeyed.opened.looks (connect_looks hconnect)

/-- However a bootstrap goes, it reports no error of its own and leaves the files as they are. -/
theorem Bootstraps.looks {result : Except Halt Agent} (h : Bootstraps options around world result after) :
    world.host.Looks after.host := by
  cases h with
  | unread hopen =>
    have hlooks := Host.looks_openFile options.settingsFile options.identityDir world.host
    rwa [hopen] at hlooks
  | keyless hopened hsecret => exact hopened.looks
  | unconnected hkeyed hconnect =>
    exact IsTrans.trans _ _ _ hkeyed.opened.looks (connect_looks hconnect)
  | unregistered hconnected hregister =>
    exact IsTrans.trans _ _ _ hconnected.looks (register_looks hregister)
  | up hconnected hregister =>
    exact IsTrans.trans _ _ _ hconnected.looks (register_looks hregister)

theorem Keyed.link_eq {store : Store} {key : Codec.Key} (h : Keyed options world store key after) :
    after.link? = world.link? := by
  obtain ⟨host, -, rfl⟩ := h.opened.after_eq
  rfl

theorem Connected.link_eq {store : Store} {key : Codec.Key} {target : String}
    (h : Connected options around world store key target after) : after.link? = world.link? := by
  obtain ⟨keyed, hkeyed, hconnect⟩ := h
  obtain ⟨-, rfl⟩ := connect_eq hconnect
  exact hkeyed.link_eq

/-- By the time the agent is connected all its dials are over. -/
theorem Connected.dial_le {store : Store} {key : Codec.Key} {target : String}
    (h : Connected options around world store key target after) :
    ∀ dial ∈ after.dials, dial.moment ≤ after.now := by
  obtain ⟨keyed, hkeyed, hconnect⟩ := h
  obtain ⟨-, rfl⟩ := connect_eq hconnect
  intro dial hdial
  exact dialing_dial_le hdial

/-- Nothing is dialed before there are settings, a key and an endpoint. -/
theorem Bootstraps.keyed_of_dialed {result : Except Halt Agent}
    (h : Bootstraps options around world result after) (hfresh : world.dials = [])
    (hdialed : after.dials ≠ []) :
    ∃ store key keyed address events, Keyed options world store key keyed ∧
      Control.target store.settings.controllers options.port = .ok (address, events) := by
  have hconnecting {store : Store} {key : Codec.Key} {keyed connected : World}
      {result : Except Halt String} (hkeyed : Keyed options world store key keyed)
      (hconnect : Agent.connect options around store.settings keyed = (result, connected))
      (hdials : connected.dials ≠ []) :
      ∃ store key keyed address events, Keyed options world store key keyed ∧
        Control.target store.settings.controllers options.port = .ok (address, events) := by
    obtain ⟨-, rfl⟩ := connect_eq hconnect
    obtain ⟨address, events, htarget⟩ := target_of_dialed hdials
    exact ⟨store, key, keyed, address, events, hkeyed, htarget⟩
  cases h with
  | unread hopen => exact absurd hfresh hdialed
  | keyless hopened hsecret =>
    obtain ⟨host, -, rfl⟩ := hopened.after_eq
    exact absurd hfresh hdialed
  | unconnected hkeyed hconnect => exact hconnecting hkeyed hconnect hdialed
  | unregistered hconnected hregister =>
    obtain ⟨keyed, hkeyed, hconnect⟩ := hconnected
    obtain ⟨-, rfl⟩ := register_eq hregister
    exact hconnecting hkeyed hconnect hdialed
  | up hconnected hregister =>
    obtain ⟨keyed, hkeyed, hconnect⟩ := hconnected
    obtain ⟨-, rfl⟩ := register_eq hregister
    exact hconnecting hkeyed hconnect hdialed

/-- Registrations were sent, all of them after the last dial, over a connection that came of it. -/
structure Announced (options : AgentOptions) (around : Surroundings) (world after : World)
    (connected : World) : Prop where
  connection : ∃ store key target, Connected options around world store key target connected
  dials : after.dials = connected.dials
  now_le : connected.now ≤ after.now
  sent : ∀ sent ∈ after.sent, connected.now ≤ sent.moment ∧ sent.IsRegistration

/-- However registering goes, its registrations come behind the dials and travel over the connection. -/
theorem announced_of_register {store : Store} {key : Codec.Key} {target : String} {connected : World}
    {result : Except Halt Control.Pool}
    (hconnected : Connected options around world store key target connected)
    (hregister : register options around (identityOf store.settings) key target connected =
      (result, after)) : Announced options around world after connected := by
  obtain ⟨-, rfl⟩ := register_eq hregister
  exact ⟨⟨store, key, target, hconnected⟩, rfl, le_registering_moment, registering_sent⟩

/-- Nothing is sent before there is a connection. -/
theorem Bootstraps.announced_of_link {result : Except Halt Agent}
    (h : Bootstraps options around world result after) (hfresh : world.link? = none)
    (hlink : after.link? ≠ none) : ∃ connected, Announced options around world after connected := by
  cases h with
  | unread hopen => exact absurd hfresh hlink
  | keyless hopened hsecret =>
    obtain ⟨host, -, rfl⟩ := hopened.after_eq
    exact absurd hfresh hlink
  | unconnected hkeyed hconnect =>
    obtain ⟨-, rfl⟩ := connect_eq hconnect
    exact absurd (hkeyed.link_eq.trans hfresh) hlink
  | unregistered hconnected hregister => exact ⟨_, announced_of_register hconnected hregister⟩
  | up hconnected hregister => exact ⟨_, announced_of_register hconnected hregister⟩

/-- An agent that has come up has a link. -/
theorem Bootstraps.link_of_up {agent : Agent} (h : Bootstraps options around world (.ok agent) after) :
    ∃ link, after.link? = some link := by
  cases h with
  | up hconnected hregister =>
    obtain ⟨-, rfl⟩ := register_eq hregister
    exact ⟨_, rfl⟩

end

/-! ## What an agent does that has come up -/

/-- Nothing was dialed or sent and no error reported, and time has gone on. -/
structure Stays (world after : World) : Prop where
  calm : world.host.Calm after.host
  dials : after.dials = world.dials
  link : after.link? = world.link?
  now_le : world.now ≤ after.now

instance : Std.Refl Stays := ⟨fun _ ↦ ⟨Std.Refl.refl _, rfl, rfl, le_rfl⟩⟩

instance : IsTrans World Stays :=
  ⟨fun _ _ _ hfirst hsecond ↦ ⟨hfirst.calm.trans hsecond.calm, hsecond.dials.trans hfirst.dials,
    hsecond.link.trans hfirst.link, hfirst.now_le.trans hsecond.now_le⟩⟩

theorem stays_report {events : List Log.Event} (h : Harmless events) : Leads Stays (report events) :=
  fun _ ↦ ⟨.of_added events rfl h, rfl, rfl, le_rfl⟩

theorem stays_onHost (wrap : ε → BootstrapError) {act : HostM ε α} (h : Leads Host.Calm act) :
    Leads Stays (onHost wrap act) := by
  intro world
  rw [onHost_apply]
  exact ⟨h world.host, rfl, rfl, le_rfl⟩

theorem stays_writePidFile (options : AgentOptions) (pid : Nat) :
    Leads Stays (writePidFile options pid) := by
  unfold writePidFile
  cases options.pidDir? with
  | none => exact .pure none
  | some directory =>
    refine (stays_onHost _ (Host.leads_outcome (Host.calm_createPidFile _ _ _))).bind fun result ↦ ?_
    cases result with
    | ok file => exact .pure _
    | error fault =>
      have hwarning : Harmless [pidFileFailed directory fault] :=
        harmless_singleton (by simp [pidFileFailed])
      exact (stays_report hwarning).bind fun _ ↦ .pure none

theorem stays_work (plan : StopPlan) : Leads Stays (work plan) := by
  cases plan with
  | never => exact .throw _
  | after millis signal? =>
    have hwait : Leads Stays (modify fun world ↦ { world with now := world.now + millis } : AgentM Unit) :=
      fun _ ↦ ⟨Std.Refl.refl _, rfl, rfl, Nat.le_add_right _ _⟩
    have hwaited : Harmless (Waited.ofSignal? signal?).events := by
      cases signal? <;> exact harmless_singleton (by simp)
    exact hwait.bind fun _ ↦ stays_report hwaited

/-- The departure of the agent was sent, and nothing else. -/
structure Departs (world after : World) : Prop where
  looks : world.host.Looks after.host
  dials : after.dials = world.dials
  now_eq : after.now = world.now
  sent : ∃ departure : Control.Sent, departure.moment = world.now ∧ departure.IsDeparture ∧
    after.sent = departure :: world.sent

/-- Stopping sends one departure and nothing else. -/
theorem stop_departs (agent : Agent) {world : World} (h : world.link? ≠ none) :
    Departs world (agent.stop world).2 := by
  obtain ⟨link, hlink⟩ := Option.ne_none_iff_exists'.1 h
  have hstop : agent.stop world = report (agent.pool.stop world.now world.host.tree link).1
      { world with link? := some (agent.pool.stop world.now world.host.tree link).2 } := by
    unfold stop
    rw [bind_of_ok (get_apply world), hlink]
    rfl
  rw [hstop]
  obtain ⟨departure, hmoment, hpayload, hsent⟩ := agent.pool.sent_stop world.now world.host.tree link
  refine ⟨⟨.of_added _ rfl (agent.pool.harmless_stop _ _ _), rfl⟩, rfl, rfl, ?_⟩
  refine ⟨departure, hmoment, ⟨_, hpayload⟩, ?_⟩
  have hearlier : world.sent = link.sent := by
    rw [World.sent, hlink]
    rfl
  rw [hearlier]
  exact hsent

/-- A serving agent stops once; before and after that it dials nobody and sends nothing. -/
theorem serve_eq_ok {agent : Agent} {options : AgentOptions} {around : Surroundings} {plan : StopPlan}
    {world after : World} (h : agent.serve options around plan world = (.ok (), after)) :
    ∃ before, Stays world before ∧ Stays (agent.stop before).2 after := by
  obtain ⟨file?, written, hwrite, h⟩ := bind_eq_ok h
  obtain ⟨_, reported, hreport, h⟩ := bind_eq_ok h
  obtain ⟨_, before, hwork, h⟩ := bind_eq_ok h
  obtain ⟨_, left, hstop, h⟩ := bind_eq_ok h
  refine ⟨before, ?_, ?_⟩
  · have hwritten := stays_writePidFile options around.pid world
    have hreported : Stays written (report [agent.started] written).2 :=
      stays_report (harmless_singleton (by simp [started])) written
    have hworked := stays_work plan reported
    rw [hwrite] at hwritten
    rw [hreport] at hreported
    rw [hwork] at hworked
    exact IsTrans.trans _ _ _ hwritten (IsTrans.trans _ _ _ hreported hworked)
  · obtain ⟨_, closed, hclose, h⟩ := bind_eq_ok h
    have hclosed : Stays left (report [stopped] left).2 :=
      stays_report (harmless_singleton (by simp [stopped])) left
    rw [hclose] at hclosed
    rw [hstop]
    refine IsTrans.trans _ _ _ hclosed ?_
    cases file? with
    | none =>
      obtain ⟨-, rfl⟩ := Prod.mk.inj h
      exact Std.Refl.refl _
    | some file =>
      have hdrop : onHost Empty.elim file.drop closed = (.ok (), after) := h
      have hdropped := stays_onHost Empty.elim (Host.calm_dropPidFile file) closed
      rwa [hdrop] at hdropped

theorem report_succeeds (events : List Log.Event) : Succeeds (report events) :=
  fun _ ↦ ⟨(), _, rfl⟩

theorem onHost_succeeds (act : HostM Empty α) : Succeeds (onHost Empty.elim act) := by
  intro world
  rw [onHost_apply]
  rcases act world.host with ⟨never | value, host⟩
  · exact never.elim
  · exact ⟨value, _, rfl⟩

/-- An agent that is asked to stop, or whose trigger is dropped, stops. -/
theorem serve_succeeds (agent : Agent) (options : AgentOptions) (around : Surroundings) (millis : Nat)
    (signal? : Option Signal) : Succeeds (agent.serve options around (.after millis signal?)) := by
  have hwrite : Succeeds (writePidFile options around.pid) := by
    unfold writePidFile
    cases options.pidDir? with
    | none => exact .pure none
    | some directory =>
      refine (onHost_succeeds _).bind fun result ↦ ?_
      cases result with
      | ok file => exact .pure _
      | error fault => exact (report_succeeds _).bind fun _ ↦ .pure none
  have hwork : Succeeds (work (.after millis signal?)) :=
    Succeeds.bind (fun _ ↦ ⟨(), _, rfl⟩) fun _ ↦ report_succeeds _
  have hstop : Succeeds agent.stop := by
    intro world
    unfold stop
    rw [bind_of_ok (get_apply world)]
    cases world.link? with
    | none => exact ⟨(), world, rfl⟩
    | some link => exact ⟨(), _, rfl⟩
  refine hwrite.bind fun file? ↦ (report_succeeds _).bind fun _ ↦ hwork.bind fun _ ↦ ?_
  refine hstop.bind fun _ ↦ (report_succeeds _).bind fun _ ↦ ?_
  cases file? with
  | none => exact .pure ()
  | some file => exact onHost_succeeds _

/-! ## The whole run -/

/-- The bootstrap of the run succeeds; the control plane has then accepted the pool. -/
def ComesUp (options : AgentOptions) (around : Surroundings) (host : Host) : Prop :=
  ∃ agent after, bootstrap options around { host } = (.ok agent, after)

/-- The stage of that name is the first one that fails, with the given error. -/
inductive FailsAt (options : AgentOptions) (around : Surroundings) (preparing : Except String StopPlan)
    (host : Host) : String → BootstrapError → Prop where
  | settings {error : StoreError} {after : Host}
      (hopen : Store.openFile options.settingsFile options.identityDir host = (.error error, after)) :
      FailsAt options around preparing host "config" (.settings error)
  | key {store : Store} {opened : World} {fault : Codec.KeyFault}
      (hopened : Opened options { host } store opened)
      (hsecret : Codec.Key.ofSecret store.settings.secret = .error fault) :
      FailsAt options around preparing host "codec" (.key fault)
  | connect {store : Store} {key : Codec.Key} {keyed after : World} {error : BootstrapError}
      (hkeyed : Keyed options { host } store key keyed)
      (hconnect : Agent.connect options around store.settings keyed = (.error (.failed error), after)) :
      FailsAt options around preparing host "connect" error
  | pool {store : Store} {key : Codec.Key} {target : String} {connected after : World}
      {error : BootstrapError}
      (hconnected : Connected options around { host } store key target connected)
      (hregister : register options around (identityOf store.settings) key target connected =
        (.error (.failed error), after)) :
      FailsAt options around preparing host "worker_pool" error
  | signals {reason : String} (hup : ComesUp options around host)
      (hpreparing : preparing = .error reason) :
      FailsAt options around preparing host "signals" (.signals reason)

/-- What holds of a run that comes to an exit with the given code. -/
structure Orderly (options : AgentOptions) (around : Surroundings)
    (preparing : Except String StopPlan) (host : Host) (ran : Ran) (code : UInt8) : Prop where
  /-- There are no dials without settings, identity files, a key and an endpoint. -/
  dialed : ran.world.dials ≠ [] → ∃ store key keyed address events,
    Keyed options { host } store key keyed ∧
      Control.target store.settings.controllers options.port = .ok (address, events)
  /-- Nothing is sent without a connection, and there are no dials any more once something is. -/
  announced : ran.world.sent ≠ [] → ∃ store key target connected,
    Connected options around { host } store key target connected ∧ connected.link? = none ∧
      ran.world.dials = connected.dials
  dial_le_sent : ∀ dial ∈ ran.world.dials, ∀ sent ∈ ran.world.sent, dial.moment ≤ sent.moment
  prepared_iff : ran.prepared = true ↔ ComesUp options around host
  /-- Without a pool and handlers for signals there is neither a pid file nor a wait. -/
  idle : ¬ (ComesUp options around host ∧ ∃ plan, preparing = .ok plan) →
    ran.world.host.tree = host.tree ∧ ran.world.now = (bootstrap options around { host }).2.now
  code_eq : code = 0 ∨ code = 1
  zero_iff : code = 0 ↔ ComesUp options around host ∧ ∃ plan, preparing = .ok plan
  calm : code = 0 → host.Calm ran.world.host
  failure : code = 1 → ∃ stage error, FailsAt options around preparing host stage error ∧
    Host.Reports [⟨.error, "fleetd_agent", "Agent bootstrap failed",
      [("stage", .text stage), ("error", .shown error.message)]⟩] host ran.world.host
  departed : ComesUp options around host → ∃ departure earlier,
    ran.world.sent = departure :: earlier ∧ departure.IsDeparture ∧ ∀ sent ∈ earlier, ¬ sent.IsDeparture
  stayed : ¬ ComesUp options around host → ∀ sent ∈ ran.world.sent, ¬ sent.IsDeparture

section

variable {options : AgentOptions} {around : Surroundings} {preparing : Except String StopPlan}
  {host : Host}

theorem World.sent_eq_nil {world : World} (h : world.link? = none) : world.sent = [] := by
  rw [World.sent, h]
  rfl

/-- After a bootstrap, only the departure of its agent was sent. -/
structure Leaves (up after : World) : Prop where
  dials : after.dials = up.dials
  sent : ∃ departure : Control.Sent, up.now ≤ departure.moment ∧ departure.IsDeparture ∧
    after.sent = departure :: up.sent

/-- Apart from the departure nothing is sent behind a bootstrap. -/
theorem stop_leaves (agent : Agent) {up before after : World} (hlink : up.link? ≠ none)
    (hbefore : Stays up before) (hafter : Stays (agent.stop before).2 after) : Leaves up after := by
  have hdeparts := stop_departs agent (hbefore.link ▸ hlink)
  obtain ⟨departure, hmoment, hdeparture, hsent⟩ := hdeparts.sent
  refine ⟨hafter.dials.trans (hdeparts.dials.trans hbefore.dials), departure, ?_, hdeparture, ?_⟩
  · rw [hmoment]
    exact hbefore.now_le
  · have hsame : before.sent = up.sent := by rw [World.sent, hbefore.link, World.sent]
    have hkept : after.sent = (agent.stop before).2.sent := by rw [World.sent, hafter.link, World.sent]
    rw [hkept, hsent, hsame]

/-- No dial comes behind the moment at which the agent was connected. -/
theorem Announced.dial_le_sent {world after connected : World}
    (h : Announced options around world after connected) :
    ∀ dial ∈ after.dials, dial.moment ≤ connected.now := by
  obtain ⟨store, key, target, hconnected⟩ := h.connection
  rw [h.dials]
  exact hconnected.dial_le

theorem Announced.connected {after connected : World}
    (h : Announced options around { host } after connected) :
    ∃ store key target connected, Connected options around { host } store key target connected ∧
      connected.link? = none ∧ after.dials = connected.dials := by
  obtain ⟨store, key, target, hconnected⟩ := h.connection
  exact ⟨store, key, target, connected, hconnected, hconnected.link_eq, h.dials⟩

/-- A bootstrap fails with the error of its first stage that does not succeed. -/
theorem Bootstraps.failsAt {error : BootstrapError} {after : World}
    (h : Bootstraps options around { host } (.error (.failed error)) after) :
    FailsAt options around preparing host error.stage error := by
  cases h with
  | unread hopen => exact .settings hopen
  | keyless hopened hsecret => exact .key hopened hsecret
  | unconnected hkeyed hconnect =>
    obtain ⟨cause, -, rfl⟩ := settled_eq_failed (connect_eq hconnect).1
    exact .connect hkeyed hconnect
  | unregistered hconnected hregister =>
    obtain ⟨cause, -, rfl⟩ := settled_eq_failed (register_eq hregister).1
    exact .pool hconnected hregister

/-- A run whose bootstrap fails. -/
theorem orderly_of_failed {error : BootstrapError} {after : World}
    (h : bootstrap options around { host } = (.error (.failed error), after)) :
    Orderly options around preparing host ⟨some 1, false, after.reporting [failed error]⟩ 1 := by
  have hspec := bootstrap_spec options around { host }
  rw [h] at hspec
  have hdown : ¬ ComesUp options around host := by
    rintro ⟨agent, up, hup⟩
    rw [h] at hup
    cases hup
  have hannounced (hsent : after.sent ≠ []) :=
    hspec.announced_of_link rfl fun hnone ↦ hsent (World.sent_eq_nil hnone)
  constructor
  case dialed => exact hspec.keyed_of_dialed rfl
  case announced =>
    intro hsent
    obtain ⟨connected, hconnected⟩ := hannounced hsent
    exact hconnected.connected
  case dial_le_sent =>
    intro dial hdial sent hsent
    obtain ⟨connected, hconnected⟩ := hannounced (List.ne_nil_of_mem hsent)
    exact (hconnected.dial_le_sent dial hdial).trans (hconnected.sent sent hsent).1
  case prepared_iff => simp [hdown]
  case idle =>
    intro _
    exact ⟨hspec.looks.2, by rw [h]; rfl⟩
  case code_eq => exact .inr rfl
  case zero_iff => simp [hdown]
  case calm => exact fun hcode ↦ absurd hcode (by decide)
  case failure =>
    intro _
    refine ⟨error.stage, error, hspec.failsAt, ?_⟩
    exact hspec.looks.1.trans ⟨[failed error], rfl, rfl⟩
  case departed => exact fun hup ↦ absurd hup hdown
  case stayed =>
    intro _ sent hsent
    obtain ⟨connected, hconnected⟩ := hannounced (List.ne_nil_of_mem hsent)
    exact (hconnected.sent sent hsent).2.not_departure

/-- A run whose agent comes up and leaves again. -/
theorem orderly_of_up {agent : Agent} {up after : World} {code : UInt8}
    (hup : bootstrap options around { host } = (.ok agent, up)) (hleaves : Leaves up after)
    (hcode : code = 0 ∧ (∃ plan, preparing = .ok plan) ∧ host.Calm after.host ∨
      ∃ reason, code = 1 ∧ preparing = .error reason ∧ after.host.tree = host.tree ∧
        after.now = up.now ∧ Host.Reports [failed (.signals reason)] host after.host) :
    Orderly options around preparing host ⟨some code, true, after⟩ code := by
  have hspec := bootstrap_spec options around { host }
  rw [hup] at hspec
  have hcomes : ComesUp options around host := ⟨agent, up, hup⟩
  obtain ⟨link, hlink⟩ := hspec.link_of_up
  obtain ⟨connected, hconnected⟩ :=
    hspec.announced_of_link rfl (hlink.symm ▸ Option.some_ne_none link)
  obtain ⟨departure, hmoment, hdeparture, hsent⟩ := hleaves.sent
  constructor
  case dialed =>
    intro hdialed
    exact hspec.keyed_of_dialed rfl (hleaves.dials ▸ hdialed)
  case announced =>
    intro _
    obtain ⟨store, key, target, connected, hconnection, hfresh, hdials⟩ := hconnected.connected
    exact ⟨store, key, target, connected, hconnection, hfresh, hleaves.dials.trans hdials⟩
  case dial_le_sent =>
    intro dial hdial sent hmem
    have hdialed := hconnected.dial_le_sent dial (hleaves.dials ▸ hdial)
    simp only [hsent] at hmem
    rcases List.mem_cons.1 hmem with rfl | hearlier
    · exact hdialed.trans (hconnected.now_le.trans hmoment)
    · exact hdialed.trans (hconnected.sent sent hearlier).1
  case prepared_iff => simp [hcomes]
  case departed =>
    intro _
    exact ⟨departure, up.sent, hsent, hdeparture,
      fun sent hearlier ↦ (hconnected.sent sent hearlier).2.not_departure⟩
  case stayed => exact fun hdown ↦ absurd hcomes hdown
  all_goals
    obtain ⟨rfl, ⟨plan, rfl⟩, hcalm⟩ | ⟨reason, rfl, rfl, htree, hnow, hreports⟩ := hcode
  case idle.inl => exact fun hnot ↦ absurd ⟨hcomes, plan, rfl⟩ hnot
  case idle.inr => exact fun _ ↦ ⟨htree, by rw [hup]; exact hnow⟩
  case code_eq.inl => exact .inl rfl
  case code_eq.inr => exact .inr rfl
  case zero_iff.inl => exact ⟨fun _ ↦ ⟨hcomes, plan, rfl⟩, fun _ ↦ rfl⟩
  case zero_iff.inr => simp
  case calm.inl => exact fun _ ↦ hcalm
  case calm.inr => exact fun hcode ↦ absurd hcode (by decide)
  case failure.inl => exact fun hcode ↦ absurd hcode (by decide)
  case failure.inr => exact fun _ ↦ ⟨"signals", _, .signals hcomes rfl, hreports⟩

/-- A run that cannot prepare for signals fails at that stage, after its agent has departed. -/
theorem orderly_of_abandoned {agent : Agent} {up : World} {reason : String}
    (hup : bootstrap options around { host } = (.ok agent, up)) (hpreparing : preparing = .error reason) :
    Orderly options around preparing host ⟨some 1, true, (agent.abandon reason up).2⟩ 1 := by
  have hspec := bootstrap_spec options around { host }
  rw [hup] at hspec
  obtain ⟨link, hlink⟩ := hspec.link_of_up
  have habandon : agent.abandon reason up = agent.stop (up.reporting [failed (.signals reason)]) := by
    unfold abandon
    rw [bind_of_ok (report_apply _ _)]
  have hlinked : (up.reporting [failed (.signals reason)]).link? ≠ none := by
    intro hnone
    cases hlink.symm.trans hnone
  have hdeparts := stop_departs agent hlinked
  rw [habandon]
  refine orderly_of_up hup ⟨hdeparts.dials, ?_⟩ (.inr ⟨reason, rfl, hpreparing, ?_, hdeparts.now_eq, ?_⟩)
  · obtain ⟨departure, hmoment, hdeparture, hsent⟩ := hdeparts.sent
    exact ⟨departure, hmoment.ge, hdeparture, hsent⟩
  · exact hdeparts.looks.2.trans hspec.looks.2
  · have hreported : Host.Reports [failed (.signals reason)] up.host
        (up.reporting [failed (.signals reason)]).host := ⟨_, rfl, rfl⟩
    exact hspec.looks.1.trans (hreported.trans hdeparts.looks.1)

/-- A run that serves has no failure to report. -/
theorem orderly_of_served {agent : Agent} {up after : World} {plan : StopPlan}
    (hup : bootstrap options around { host } = (.ok agent, up)) (hpreparing : preparing = .ok plan)
    (hserve : agent.serve options around plan up = (.ok (), after)) :
    Orderly options around preparing host ⟨some 0, true, after⟩ 0 := by
  have hspec := bootstrap_spec options around { host }
  rw [hup] at hspec
  obtain ⟨link, hlink⟩ := hspec.link_of_up
  have hlinked : up.link? ≠ none := hlink.symm ▸ Option.some_ne_none link
  obtain ⟨before, hbefore, hafter⟩ := serve_eq_ok hserve
  have hstop := stop_departs agent (hbefore.link ▸ hlinked)
  refine orderly_of_up hup (stop_leaves agent hlinked hbefore hafter)
    (.inl ⟨rfl, ⟨plan, hpreparing⟩, ?_⟩)
  exact hspec.looks.1.trans (hbefore.calm.trans (hstop.looks.1.trans hafter.calm))

end

/-- Every run that comes to an exit goes through its stages in order, and a run that is asked to stop
does come to one. -/
theorem run_orderly (options : AgentOptions) (around : Surroundings)
    (preparing : Except String StopPlan) (host : Host) :
    (∀ code, (run options around preparing host).exit? = some code →
      Orderly options around preparing host (run options around preparing host) code) ∧
    (∀ millis signal?, ComesUp options around host → preparing = .ok (.after millis signal?) →
      (run options around preparing host).exit? = some 0) := by
  constructor
  · intro code hexit
    unfold run at hexit ⊢
    rcases hup : bootstrap options around { host } with ⟨⟨error | _ | _⟩ | agent, up⟩
    · simp only [hup, Option.some.injEq] at hexit ⊢
      subst hexit
      exact orderly_of_failed hup
    · simp [hup] at hexit
    · simp [hup] at hexit
    · simp only [hup] at hexit ⊢
      rcases preparing with reason | plan
      · obtain rfl := Option.some.inj hexit
        exact orderly_of_abandoned hup rfl
      · rcases hserve : agent.serve options around plan up with ⟨_ | _, after⟩
        · simp [hserve] at hexit
        · simp only [hserve, Option.some.injEq] at hexit ⊢
          subst hexit
          exact orderly_of_served hup rfl hserve
  · rintro millis signal? ⟨agent, up, hup⟩ rfl
    obtain ⟨_, after, hserve⟩ := agent.serve_succeeds options around millis signal? up
    unfold run
    simp only [hup, hserve]

/-- The control plane accepts the first registration of the agent that `nodeFiles` describes. -/
def welcome : Surroundings where
  dialer _ _ := .after 0 (.ok ())
  wire :=
    { nonces _ := List.replicate 12 0
      replies := [⟨0, do
        let key ← (Codec.Key.ofSecret "00112233445566778899aabbccddeeff").mapError fun _ ↦ .emptyMessage
        (key.encode (List.replicate 12 0) (Control.Ack.mk 1 true none).toBytes).mapError .codec⟩] }
  fuel := 1

theorem welcome_orderly :
    ComesUp hasty welcome { tree := nodeFiles } ∧
      Orderly hasty welcome (.ok (.after 5 (some .terminate))) { tree := nodeFiles }
        (run hasty welcome (.ok (.after 5 (some .terminate))) { tree := nodeFiles }) 0 := by
  have hok : (bootstrap hasty welcome { host := { tree := nodeFiles } }).1.isOk = true := by
    decide +kernel
  have hup : ComesUp hasty welcome { tree := nodeFiles } := by
    rcases hrun : bootstrap hasty welcome { host := { tree := nodeFiles } } with ⟨_ | agent, after⟩
    · rw [hrun] at hok
      cases hok
    · exact ⟨agent, after, hrun⟩
  have hexit := (run_orderly hasty welcome _ { tree := nodeFiles }).2 5 (some .terminate) hup rfl
  exact ⟨hup, (run_orderly hasty welcome _ { tree := nodeFiles }).1 0 hexit⟩

end Agent

end FleetAgent
