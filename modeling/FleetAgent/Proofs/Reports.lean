import FleetAgent.Agent.Run
import FleetAgent.Proofs.Acknowledgement
import FleetAgent.Proofs.BootstrapActs
import FleetAgent.Proofs.StoreReading

/-!
# What is reported on the way

A run reports a great deal, but an error only when it fails: file calls, attempts, registrations and the
departure report nothing of that level. `Host.Reports` keeps count of the errors that an activity has
added to the log, and `Host.Calm` says that there are none.
-/

namespace FleetAgent

def Log.Event.isError (event : Log.Event) : Bool := event.level = .error

/-- None of the events tells of an error. -/
def Harmless (events : List Log.Event) : Prop := ∀ event ∈ events, ¬ event.isError

theorem Harmless.append {events more : List Log.Event} (h : Harmless events) (hmore : Harmless more) :
    Harmless (events ++ more) := by
  intro event hevent
  exact (List.mem_append.1 hevent).elim (h event) (hmore event)

theorem harmless_nil : Harmless [] := by simp [Harmless]

theorem harmless_singleton {event : Log.Event} (h : event.level ≠ .error) : Harmless [event] := by
  simp [Harmless, Log.Event.isError, h]

namespace Host

/-- The log has grown, and the given events are the errors among those added, the latest first. -/
def Reports (errors : List Log.Event) (host after : Host) : Prop :=
  ∃ added, after.log = added ++ host.log ∧ added.filter Log.Event.isError = errors

def Calm : Host → Host → Prop := Reports []

/-- No error has been reported, and the files are the same. -/
def Looks (host after : Host) : Prop := Calm host after ∧ after.tree = host.tree

/-- The errors of two stretches of a log are those of the second and then those of the first, the latest
first. -/
theorem Reports.trans {first second : List Log.Event} {host middle after : Host}
    (hfirst : Reports first host middle) (hsecond : Reports second middle after) :
    Reports (second ++ first) host after := by
  obtain ⟨added, hadded, rfl⟩ := hfirst
  obtain ⟨more, hmore, rfl⟩ := hsecond
  refine ⟨more ++ added, ?_, List.filter_append ..⟩
  rw [hmore, hadded, List.append_assoc]

theorem Calm.of_log_eq {host after : Host} (h : after.log = host.log) : Calm host after :=
  ⟨[], h, rfl⟩

/-- A log that has grown by harmless events tells of no new error. -/
theorem Calm.of_added {host after : Host} (events : List Log.Event)
    (hlog : after.log = events.reverse ++ host.log) (hcalm : Harmless events) :
    Calm host after := by
  refine ⟨events.reverse, hlog, List.filter_eq_nil_iff.2 ?_⟩
  intro event hevent
  exact hcalm event (List.mem_reverse.1 hevent)

instance : Std.Refl Calm := ⟨fun _ ↦ .of_log_eq rfl⟩

instance : IsTrans Host Calm := ⟨fun _ _ _ ↦ Reports.trans⟩

instance : Std.Refl Looks := ⟨fun host ↦ ⟨Std.Refl.refl host, rfl⟩⟩

instance : IsTrans Host Looks :=
  ⟨fun _ _ _ hfirst hsecond ↦ ⟨hfirst.1.trans hsecond.1, hsecond.2.trans hfirst.2⟩⟩

theorem calm_call (act : FileTree → Except FileError (α × FileTree)) : Leads Calm (call act) :=
  leads_call (fun _ _ _ ↦ .of_log_eq rfl) (fun _ _ _ _ _ _ ↦ .of_log_eq rfl)

theorem calm_alter (act : FileTree → Except FileError FileTree) : Leads Calm (alter act) :=
  calm_call _

theorem calm_report {event : Log.Event} (h : event.level ≠ .error) :
    Leads Calm (report event : HostM ε Unit) :=
  fun _ ↦ .of_added [event] rfl (harmless_singleton h)

theorem looks_ask (act : FileTree → Except FileError α) : Leads Looks (ask act) :=
  fun host ↦ ⟨calm_call _ host, tree_ask act host⟩

theorem looks_report {event : Log.Event} (h : event.level ≠ .error) :
    Leads Looks (report event : HostM ε Unit) :=
  fun host ↦ ⟨calm_report h host, rfl⟩

/-! ## Reading the settings -/

/-- Reading the settings reports no error, even when it fails. -/
theorem looks_openFile (path identityDir : Path) : Leads Looks (Store.openFile path identityDir) :=
  leads_load (fun _ ↦ looks_ask _) (fun _ _ ↦ looks_report (by simp [Store.loaded])) _ path

/-! ## The pid file -/

theorem calm_writeFile (path : Path) (content : ByteArray) : Leads Calm (writeFile path content) :=
  (calm_call _).bind fun _ ↦ calm_alter _

theorem calm_createPidFile (directory : Path) (name : String) (pid : Nat) :
    Leads Calm (PidFile.create directory name pid) := by
  refine (leads_makeDirs (fun path ↦ calm_alter _) directory).bind fun _ ↦ ?_
  refine (calm_writeFile _ _).bind fun _ ↦ ?_
  exact (calm_report (by simp [PidFile.written])).bind fun _ ↦ .pure _

theorem calm_dropPidFile (file : PidFile) : Leads Calm (file.drop : HostM ε Unit) := by
  refine (leads_outcome (calm_alter _)).bind fun result ↦ ?_
  rcases result with fault | _
  · have hkept : Leads Calm (report (PidFile.kept file.path fault) : HostM ε Unit) :=
      calm_report (by simp [PidFile.kept])
    cases fault with
    | notFound => exact .pure ()
    | _ => exact hkept
  · exact .pure ()

end Host

namespace Control

/-! ## Attempts -/

/-- A report about attempts tells of an error only when the attempts themselves do. -/
theorem Attempt.harmless_report (attempt : Attempt σ ε α) {tries : List (Try ε α)}
    (h : ∀ this ∈ tries, Harmless this.events) : Harmless (attempt.report tries) := by
  intro event hevent
  obtain ⟨⟨this, count⟩, hthis, hevent⟩ := List.mem_flatMap.1 hevent
  have hevents : Harmless (attempt.eventsOf count this) := by
    refine (h this (List.fst_mem_of_mem_zipIdx hthis)).append ?_
    split
    · exact harmless_singleton (by simp [retrying])
    · split
      · exact harmless_singleton (by simp [recovered])
      · exact harmless_nil
    · exact harmless_nil
  exact hevents event hevent

/-- What a sequence reports is harmless when what its attempts report is. -/
theorem Retry.harmless_report (retry : Retry σ ε α) (htimely : retry.attempt.Timely)
    (hattempt : ∀ now deadline state, Harmless (retry.attempt.run now deadline state).events)
    (fuel : Nat) (state : σ) : Harmless (retry.attempt.report (retry.run fuel state).tries) := by
  obtain ⟨-, hmade, -⟩ := retry.run_history (P := fun _ ↦ True) htimely (fun _ _ _ ↦ trivial) fuel
    state trivial
  refine retry.attempt.harmless_report fun this hthis ↦ ?_
  obtain ⟨-, -, stage, pause, rfl⟩ := hmade this hthis
  exact hattempt _ _ _

theorem harmless_target {endpoints : List String} {port : UInt16} {address : String}
    {events : List Log.Event} (h : target endpoints port = .ok (address, events)) : Harmless events := by
  unfold target at h
  cases hprimary : primary? endpoints with
  | none => simp [hprimary] at h
  | some primary =>
    simp only [hprimary, Except.ok.injEq, Prod.mk.injEq] at h
    obtain ⟨-, rfl⟩ := h
    split
    · exact harmless_nil
    · exact harmless_singleton (by simp [passedOver])

/-! ## Connecting and registering -/

theorem harmless_ofCourses (name : String) (describe : ε → String) (givenUp : ε)
    (courses : Nat → Course (Except ε α)) (now deadline : Moment) (count : Nat) :
    Harmless ((Attempt.ofCourses name describe givenUp courses).run now deadline count).events := by
  dsimp only [Attempt.ofCourses]
  split <;> exact harmless_nil

/-- Connecting reports no error, even when it fails. -/
theorem harmless_connect (endpoints : List String) (port : UInt16) (backoff : Backoff)
    (draws : Nat → Float) (dialer : Dialer) (start : Moment) (fuel : Nat) :
    Harmless (connect endpoints port backoff draws dialer start fuel).events := by
  unfold connect
  cases htarget : target endpoints port with
  | error error => exact harmless_nil
  | ok found =>
    obtain ⟨address, events⟩ := found
    have hreport := Retry.harmless_report ⟨dialAttempt dialer address, backoff, draws, start⟩
      (Attempt.timely_ofCourses _ _ _ _) (harmless_ofCourses _ _ _ _) fuel 0
    refine (harmless_target htarget).append (.append ?_ ?_)
    · exact (harmless_singleton (by simp [dialing])).append hreport
    · split
      · exact harmless_singleton (by simp [connected])
      · exact harmless_nil

/-- Acknowledgements of other registrations are passed over without an error. -/
theorem harmless_await (link : Link) (window : Window) (now : Moment) (replies : List Reply) :
    Harmless (await link window now replies).events := by
  fun_induction await link window now replies with
  | case1 | case2 | case4 => exact harmless_nil
  | case3 now reply rest received hreached id hmeant later ih =>
    exact (harmless_singleton (by simp [stale])).append ih

theorem Registrar.harmless_attempt (registrar : Registrar) (identity : Identity) (files : FileTree)
    (now deadline : Moment) (exchange : Exchange) :
    Harmless ((registrar.attempt identity files).run now deadline exchange).events := by
  rw [run_apply]
  split
  · exact harmless_nil
  · unfold awaitAck
    split
    · exact harmless_singleton (by simp [announced])
    · exact (harmless_singleton (by simp [announced])).append (harmless_await _ _ _ _)

/-- Registering reports no error, even when it fails. -/
theorem Registrar.harmless_register (registrar : Registrar) (identity : Identity) (files : FileTree)
    (backoff : Backoff) (draws : Nat → Float) (start : Moment) (fuel : Nat) (exchange : Exchange) :
    Harmless (registrar.register identity files backoff draws start fuel exchange).events := by
  have hreport := Retry.harmless_report ⟨registrar.attempt identity files, backoff, draws, start⟩
    (registrar.attempt_timely identity files) (registrar.harmless_attempt identity files) fuel exchange
  refine hreport.append ?_
  split
  · exact harmless_singleton (by simp [created])
  · exact harmless_nil

theorem Pool.harmless_stop (pool : Pool) (now : Moment) (files : FileTree) (link : Link) :
    Harmless (pool.stop now files link).1 := by
  unfold Pool.stop
  refine Harmless.append ?_ (harmless_singleton (by simp [stopped]))
  split
  · exact harmless_singleton (by simp [unannounced])
  · exact harmless_nil

end Control

end FleetAgent
