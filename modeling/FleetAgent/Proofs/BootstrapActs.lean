import FleetAgent.Agent.Run
import FleetAgent.Proofs.HostActs

/-!
# What the stages of a bootstrap do to the world

Each stage of a bootstrap is an activity on the world: the files and the log, the clock, the dials and
the link. The equations here give for every stage its outcome and the world behind it.
-/

namespace FleetAgent

/-- The activity came to an end of its own, with a value or with a failure of the bootstrap. -/
def Returned : Except Halt α → Prop
  | .ok _ | .error (.failed _) => True
  | .error .broken | .error .unfinished => False

instance (result : Except Halt α) : Decidable (Returned result) :=
  match result with
  | .ok _ | .error (.failed _) => isTrue trivial
  | .error .broken | .error .unfinished => isFalse id

def World.reporting (world : World) (events : List Log.Event) : World :=
  { world with host := { world.host with log := events.reverse ++ world.host.log } }

namespace Agent

/-- What the end of a sequence of attempts means for the bootstrap. -/
def settled (wrap : Control.RetryError ε → BootstrapError) : Control.Verdict ε α → Except Halt α
  | .success value => .ok value
  | .failure error => .error (.failed (wrap error))
  | .broken => .error .broken
  | .unfinished => .error .unfinished

theorem settle_apply (wrap : Control.RetryError ε → BootstrapError) (verdict : Control.Verdict ε α)
    (world : World) : settle wrap verdict world = (settled wrap verdict, world) := by
  cases verdict <;> rfl

/-- A stage fails with the failure of its sequence of attempts as the cause. -/
theorem settled_eq_failed {wrap : Control.RetryError ε → BootstrapError}
    {verdict : Control.Verdict ε α} {error : BootstrapError}
    (h : settled wrap verdict = .error (.failed error)) :
    ∃ cause, verdict = .failure cause ∧ error = wrap cause := by
  cases verdict <;> simp_all [settled]

theorem settled_eq_ok {wrap : Control.RetryError ε → BootstrapError} {verdict : Control.Verdict ε α}
    {value : α} (h : settled wrap verdict = .ok value) : verdict = .success value := by
  cases verdict <;> simp_all [settled]

def dialing (options : AgentOptions) (around : Surroundings) (settings : Settings) (now : Moment) :
    Control.Connecting :=
  Control.connect settings.controllers options.port options.backoff around.connectDraws around.dialer
    now around.fuel

def newLink (around : Surroundings) (key : Codec.Key) (target : String) : Control.Link :=
  { target, key := some key, wire := around.wire }

def registering (options : AgentOptions) (around : Surroundings) (identity : Control.Identity)
    (key : Codec.Key) (target : String) (world : World) : Control.Registrar.Registering :=
  options.registrar.register identity world.host.tree options.backoff around.poolDraws world.now
    around.fuel { link := newLink around key target }

theorem onHost_apply (wrap : ε → BootstrapError) (act : HostM ε α) (world : World) :
    onHost wrap act world =
      ((act world.host).1.mapError fun error ↦ .failed (wrap error),
        { world with host := (act world.host).2 }) := by
  unfold onHost
  rcases act world.host with ⟨_ | _, host⟩ <;> rfl

theorem report_apply (events : List Log.Event) (world : World) :
    report events world = (.ok (), world.reporting events) := rfl

/-- Connecting as a whole: what it gives, when it is over, whom it dialed and what it reported. -/
theorem connect_apply (options : AgentOptions) (around : Surroundings) (settings : Settings)
    (world : World) :
    connect options around settings world =
      (settled .connect (dialing options around settings world.now).verdict,
        ({ world with
            now := (dialing options around settings world.now).moment
            dials := (dialing options around settings world.now).dials } : World).reporting
          (dialing options around settings world.now).events) := by
  rw [← settle_apply]
  rfl

theorem connect_eq {options : AgentOptions} {around : Surroundings} {settings : Settings}
    {world after : World} {result : Except Halt String}
    (h : connect options around settings world = (result, after)) :
    settled .connect (dialing options around settings world.now).verdict = result ∧
      after = ({ world with
        now := (dialing options around settings world.now).moment
        dials := (dialing options around settings world.now).dials } : World).reporting
          (dialing options around settings world.now).events := by
  rw [connect_apply, Prod.mk.injEq] at h
  exact ⟨h.1, h.2.symm⟩

/-- Registering as a whole: what it gives, when it is over, the link behind it and what was reported. -/
theorem register_apply (options : AgentOptions) (around : Surroundings) (identity : Control.Identity)
    (key : Codec.Key) (target : String) (world : World) :
    register options around identity key target world =
      (settled .pool (registering options around identity key target world).trial.verdict,
        ({ world with
            now := (registering options around identity key target world).trial.moment
            link? := some (registering options around identity key target world).trial.state.link } :
              World).reporting (registering options around identity key target world).events) := by
  rw [← settle_apply]
  rfl

theorem register_eq {options : AgentOptions} {around : Surroundings} {identity : Control.Identity}
    {key : Codec.Key} {target : String} {world after : World} {result : Except Halt Control.Pool}
    (h : register options around identity key target world = (result, after)) :
    settled .pool (registering options around identity key target world).trial.verdict = result ∧
      after = ({ world with
        now := (registering options around identity key target world).trial.moment
        link? := some (registering options around identity key target world).trial.state.link } :
          World).reporting (registering options around identity key target world).events := by
  rw [register_apply, Prod.mk.injEq] at h
  exact ⟨h.1, h.2.symm⟩

/-! ## How far a bootstrap comes -/

def identityOf (settings : Settings) : Control.Identity := ⟨settings.systemId, settings.clusterId⟩

/-- The settings and the identity files have been read. -/
def Opened (options : AgentOptions) (world : World) (store : Store) (after : World) : Prop :=
  onHost .settings (Store.openFile options.settingsFile options.identityDir) world = (.ok store, after)

theorem Opened.after_eq {options : AgentOptions} {world after : World} {store : Store}
    (h : Opened options world store after) :
    ∃ host, Store.openFile options.settingsFile options.identityDir world.host = (.ok store, host) ∧
      after = { world with host } := by
  rw [Opened, onHost_apply, Prod.mk.injEq] at h
  obtain ⟨hresult, rfl⟩ := h
  rcases hopen : Store.openFile options.settingsFile options.identityDir world.host with
    ⟨error | found, host⟩
  · rw [hopen] at hresult
    cases hresult
  · rw [hopen] at hresult
    obtain rfl := Except.ok.inj hresult
    exact ⟨host, rfl, rfl⟩

/-- The settings have been read, and the secret in them gives the key. -/
structure Keyed (options : AgentOptions) (world : World) (store : Store) (key : Codec.Key)
    (after : World) : Prop where
  opened : Opened options world store after
  secret : Codec.Key.ofSecret store.settings.secret = .ok key

/-- The agent has its key and is connected to the address. -/
def Connected (options : AgentOptions) (around : Surroundings) (world : World) (store : Store)
    (key : Codec.Key) (target : String) (after : World) : Prop :=
  ∃ keyed, Keyed options world store key keyed ∧
    connect options around store.settings keyed = (.ok target, after)

/-- What a bootstrap can come to, stage by stage. -/
inductive Bootstraps (options : AgentOptions) (around : Surroundings) (world : World) :
    Except Halt Agent → World → Prop where
  | unread {error : StoreError} {host : Host}
      (hopen : Store.openFile options.settingsFile options.identityDir world.host = (.error error, host)) :
      Bootstraps options around world (.error (.failed (.settings error))) { world with host }
  | keyless {store : Store} {opened : World} {fault : Codec.KeyFault}
      (hopened : Opened options world store opened)
      (hsecret : Codec.Key.ofSecret store.settings.secret = .error fault) :
      Bootstraps options around world (.error (.failed (.key fault))) opened
  | unconnected {store : Store} {key : Codec.Key} {keyed after : World} {halt : Halt}
      (hkeyed : Keyed options world store key keyed)
      (hconnect : connect options around store.settings keyed = (.error halt, after)) :
      Bootstraps options around world (.error halt) after
  | unregistered {store : Store} {key : Codec.Key} {target : String} {connected after : World} {halt : Halt}
      (hconnected : Connected options around world store key target connected)
      (hregister : register options around (identityOf store.settings) key target connected =
        (.error halt, after)) :
      Bootstraps options around world (.error halt) after
  | up {store : Store} {key : Codec.Key} {target : String} {connected after : World} {pool : Control.Pool}
      (hconnected : Connected options around world store key target connected)
      (hregister : register options around (identityOf store.settings) key target connected =
        (.ok pool, after)) :
      Bootstraps options around world (.ok ⟨store, identityOf store.settings, pool⟩) after

/-- A bootstrap goes one of the ways that there are for it. -/
theorem bootstrap_spec (options : AgentOptions) (around : Surroundings) (world : World) :
    Bootstraps options around world (bootstrap options around world).1
      (bootstrap options around world).2 := by
  unfold bootstrap
  rw [bind_apply]
  rcases hopen : Store.openFile options.settingsFile options.identityDir world.host with
    ⟨error | store, host⟩
  · rw [onHost_apply, hopen]
    exact .unread hopen
  have hopened : Opened options world store { world with host } := by
    rw [Opened, onHost_apply, hopen]
    rfl
  rw [hopened]
  cases hsecret : Codec.Key.ofSecret store.settings.secret with
  | error fault => simpa only [hsecret] using .keyless hopened hsecret
  | ok key =>
    simp only [hsecret]
    have hkeyed : Keyed options world store key { world with host } := ⟨hopened, hsecret⟩
    rw [bind_apply]
    rcases hconnect : connect options around store.settings { world with host } with ⟨halt | target, connected⟩
    · exact .unconnected hkeyed hconnect
    have hconnected : Connected options around world store key target connected :=
      ⟨_, hkeyed, hconnect⟩
    simp only
    rw [bind_apply]
    rcases hregister : register options around ⟨store.settings.systemId, store.settings.clusterId⟩ key
      target connected with ⟨halt | pool, after⟩
    · exact .unregistered hconnected hregister
    · exact .up hconnected hregister

end Agent

end FleetAgent
