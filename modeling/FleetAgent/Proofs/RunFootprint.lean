import FleetAgent.Proofs.MissingDirectories
import FleetAgent.Proofs.Replacement
import FleetAgent.Proofs.StageOrder

/-!
# What a run does to the files

A bootstrap only reads. An agent that has come up and prepared for signals writes its pid file before it
reports that it started, and removes it after it has sent its departure; between the two it makes no file
call at all. What is left of a run are directories on the way to the pid file.
-/

namespace FleetAgent

/-! ## Writing and removing the pid file -/

namespace FileTree

variable {tree later : FileTree} {path : Path}

/-- An opened file is emptied and all else stays as it is. -/
theorem openToWrite_empties {location : Location}
    (h : tree.openToWrite false path = .ok (location, later)) :
    location = tree.goal path ∧ later.Holds path .empty ∧ ChangesOnly (· = tree.goal path) tree later := by
  obtain ⟨hnames, hfree, rfl⟩ := openToWrite_eq_ok h
  obtain ⟨emptied, hemptied, hholds, honly⟩ := openToWrite_file hnames hfree false
  rw [if_neg Bool.false_ne_true] at hholds
  obtain rfl : emptied = later := (Prod.mk.inj (Except.ok.inj (hemptied.symm.trans h))).2
  exact ⟨rfl, hholds, honly⟩

end FileTree

namespace Host

/-- What is reported makes no difference to the files. -/
theorem Throughout.logging {R : FileTree → FileTree → Prop} {host after : Host} (h : Throughout R host after)
    (log : List Log.Event) : Throughout R host { after with log } :=
  ⟨h.stops, h.ends⟩

variable {host after : Host} {path directory : Path} {content : ByteArray} {pid : Nat}

/-- At no time of writing a file in place is any other file different. -/
theorem throughout_writeFile (path : Path) (content : ByteArray) (host : Host) :
    Throughout (FileTree.ChangesOnly (· = host.tree.goal path)) host (writeFile path content host).2 := by
  have hopens : Throughout (FileTree.ChangesOnly (· = host.tree.goal path)) host
      (call (·.openToWrite false path) host).2 :=
    throughout_call fun _ _ hopen ↦ (FileTree.openToWrite_empties hopen).2.2
  unfold writeFile
  rw [bind_apply]
  rcases hrun : call (·.openToWrite false path) host with ⟨fault | location, opened⟩ <;>
    rw [hrun] at hopens
  · exact hopens
  · obtain ⟨rfl, hempty, honly⟩ := FileTree.openToWrite_empties (call_eq_ok hrun)
    have hput := (hempty.append content).2
    rw [honly.toKeepsDirs.goal] at hput
    refine IsTrans.trans _ _ _ hopens (throughout_alter fun later hlater ↦ ?_)
    rwa [← Except.ok.inj hlater]

/-- A file that was written in place holds just the content. -/
theorem writeFile_eq_ok (h : writeFile path content host = (.ok (), after)) :
    after.tree.Holds path content := by
  obtain ⟨location, opened, hopen, happend⟩ := bind_eq_ok h
  obtain ⟨rfl, hempty, honly⟩ := FileTree.openToWrite_empties (call_eq_ok hopen)
  have hholds := (hempty.append content).1
  rw [ByteArray.empty_append, honly.toKeepsDirs.goal] at hholds
  have htree := alter_eq_ok happend
  rwa [Except.ok.inj htree] at hholds

/-- On an undisturbed host a file is written or nothing is different. -/
theorem writeFile_eq_error {fault : FileError} (hquiet : host.Undisturbed)
    (h : writeFile path content host = (.error fault, after)) : Throughout (· = ·) host after := by
  rcases bind_eq_error h with hopen | ⟨location, opened, hopen, happend⟩
  · have hstops : Throughout (· = ·) host (call (·.openToWrite false path) host).2 := by
      obtain ⟨htrail, ⟨_, -, htree⟩ | ⟨value, hvalue, -⟩⟩ := call_spec (·.openToWrite false path) host
      · exact (Std.Refl.refl host : Throughout (· = ·) host host).push htrail htree.symm
      · rw [hopen] at hvalue
        cases hvalue
    rwa [hopen] at hstops
  · have hstill : opened.Undisturbed := by
      have hcall := staysQuiet_call (·.openToWrite false path) host hquiet
      rwa [hopen] at hcall
    have happends : Yields (alter fun tree ↦ .ok (tree.append location content)) opened.tree ()
        (opened.tree.append location content) := .alter rfl
    obtain ⟨later, hdone, -⟩ := happends opened (.of_undisturbed hstill)
    rw [happend] at hdone
    cases hdone

theorem staysQuiet_report (event : Log.Event) : Leads StaysQuiet (report event : HostM ε Unit) :=
  fun _ h ↦ h

theorem staysQuiet_createPidFile (directory : Path) (name : String) (pid : Nat) :
    Leads StaysQuiet (PidFile.create directory name pid) := by
  refine (staysQuiet_makeDirs directory).bind fun _ ↦ ?_
  refine ((staysQuiet_call _).bind fun _ ↦ staysQuiet_call _).bind fun _ ↦ ?_
  exact (staysQuiet_report _).bind fun _ ↦ .pure _

end Host

namespace Agent

def pidPath (directory : Path) : Path := directory.join (.ofString "fleetd-agent.pid")

/-- The file of the process is named for the agent. -/
theorem join_name_pid (directory : Path) : directory.join (.ofString (name ++ ".pid")) = pidPath directory := by
  rw [show name ++ ".pid" = "fleetd-agent.pid" by decide, pidPath]

end Agent

namespace PidFile

variable {host after : Host} {directory : Path} {pid : Nat} {file : PidFile}

/-- A pid file that was written holds the number of the process, and all else that is new are directories
on the way to it. -/
theorem create_eq_ok (h : create directory Agent.name pid host = (.ok file, after)) :
    file = ⟨Agent.pidPath directory⟩ ∧
      after.tree.Holds (Agent.pidPath directory) (toString pid ++ "\n").toUTF8 ∧
      Host.Throughout (FileTree.Laid directory (· = host.tree.goal (Agent.pidPath directory))) host after := by
  obtain ⟨_, made, hmade, h⟩ := bind_eq_ok h
  obtain ⟨_, written, hwritten, h⟩ := bind_eq_ok h
  obtain ⟨hfile, rfl⟩ := Prod.mk.inj h
  have hmakes := Host.laid_makeDirs (· = host.tree.goal (Agent.pidPath directory)) directory host
  have hwrites := Host.throughout_writeFile (Agent.pidPath directory) (content pid) made
  rw [Agent.join_name_pid] at hwritten hfile
  rw [hmade] at hmakes
  rw [hmakes.ends.toKeepsDirs.goal, hwritten] at hwrites
  have hholds : written.tree.Holds (Agent.pidPath directory) (content pid) := Host.writeFile_eq_ok hwritten
  have hlaid : Host.Throughout (FileTree.Laid directory (· = host.tree.goal (Agent.pidPath directory))) host
      written :=
    IsTrans.trans _ _ _ hmakes (hwrites.mono fun _ honly ↦ honly.laid directory)
  exact ⟨(Except.ok.inj hfile).symm, hholds, hlaid.logging _⟩

/-- Where a pid file cannot be written on an undisturbed host, nothing but directories was made. -/
theorem create_eq_error {fault : FileError} (hquiet : host.Undisturbed)
    (h : create directory Agent.name pid host = (.error fault, after)) :
    Host.Throughout (FileTree.Laid directory fun _ ↦ False) host after := by
  have hmakes := Host.laid_makeDirs (fun _ ↦ False) directory host
  rcases bind_eq_error h with hmade | ⟨_, made, hmade, h⟩
  · rwa [hmade] at hmakes
  · have hstill := Host.staysQuiet_makeDirs directory host hquiet
    rw [hmade] at hmakes hstill
    rcases bind_eq_error h with hwrite | ⟨_, written, -, hreport⟩
    · refine IsTrans.trans _ _ _ hmakes ((Host.writeFile_eq_error hstill hwrite).mono ?_)
      rintro tree rfl
      exact .refl directory _ _
    · cases hreport

/-- On an undisturbed host a pid file that is there is removed, and nothing else. -/
theorem drop_spec (file : PidFile) (hquiet : host.Undisturbed) {bytes : ByteArray}
    (h : host.tree.Holds file.path bytes) : ∃ dropped, (file.drop : HostM Empty Unit) host = (.ok (), dropped) ∧
      dropped.tree.at? (host.tree.goal file.path) = none ∧
      Host.Throughout (FileTree.ChangesOnly (· = host.tree.goal file.path)) host dropped := by
  obtain ⟨later, hremove, hgone, honly⟩ := h.remove
  have hstops : Host.Throughout (FileTree.ChangesOnly (· = host.tree.goal file.path)) host
      (Host.alter (·.remove file.path) host).2 := by
    refine Host.throughout_alter fun other hother ↦ ?_
    rwa [← Except.ok.inj (hremove.symm.trans hother)]
  have hyields : Host.Yields (Host.outcome (Host.alter (·.remove file.path)) : HostM Empty _) host.tree (.ok ())
      later := (Host.Yields.alter hremove).outcome
  obtain ⟨dropped, hdropped, htree, -⟩ := hyields host (.of_undisturbed hquiet)
  have hsame : (Host.alter (·.remove file.path) host).2 = dropped := congrArg Prod.snd hdropped
  refine ⟨dropped, ?_, htree ▸ hgone, hsame ▸ hstops⟩
  unfold drop
  rw [bind_of_ok hdropped]
  rfl

end PidFile

/-! ## A bootstrap only reads -/

/-- The hosts of the two worlds are in the relation. -/
def OnHosts (R : Host → Host → Prop) (world after : World) : Prop := R world.host after.host

instance {R : Host → Host → Prop} [Std.Refl R] : Std.Refl (OnHosts R) := ⟨fun world ↦ Std.Refl.refl world.host⟩

instance {R : Host → Host → Prop} [IsTrans Host R] : IsTrans World (OnHosts R) :=
  ⟨fun first second third ↦ IsTrans.trans first.host second.host third.host⟩

namespace Agent

/-- To come up is to read files and to report. -/
theorem leads_bootstrap {R : Host → Host → Prop} [Std.Refl R] [IsTrans Host R]
    (hask : ∀ path, Leads R (Host.ask (·.read path))) (hlog : ∀ (host : Host) log, R host { host with log })
    (options : AgentOptions) (around : Surroundings) : Leads (OnHosts R) (bootstrap options around) := by
  have hopen : Leads R (Store.openFile options.settingsFile options.identityDir) :=
    Host.leads_load hask (fun _ _ host ↦ hlog host _) _ _
  have hopened : Leads (OnHosts R) (onHost .settings (Store.openFile options.settingsFile options.identityDir)) := by
    intro world
    rw [onHost_apply]
    exact hopen world.host
  unfold bootstrap
  refine hopened.bind fun store ↦ ?_
  cases hsecret : Codec.Key.ofSecret store.settings.secret with
  | error fault =>
    simp only [hsecret]
    exact .throw (Halt.failed (.key fault))
  | ok key =>
    simp only [hsecret]
    refine Leads.bind (fun world ↦ ?_) fun target ↦ Leads.bind (fun world ↦ ?_) fun pool ↦ .pure _
    · rw [connect_apply]
      exact hlog world.host _
    · rw [register_apply]
      exact hlog world.host _

theorem same_of_ask (see : FileTree → Except FileError α) :
    Leads (Host.Throughout (· = ·)) (Host.ask see) := by
  intro host
  refine Host.throughout_call fun value later hact ↦ ?_
  cases hsee : see host.tree with
  | error fault => simp [hsee, Except.map] at hact
  | ok found => simpa [hsee, Except.map] using congrArg (Except.map Prod.snd) hact

/-- The files are the same all the time that an agent comes up. -/
theorem same_bootstrap (options : AgentOptions) (around : Surroundings) (host : Host) :
    Host.Throughout (· = ·) host (bootstrap options around { host }).2.host :=
  leads_bootstrap (R := Host.Throughout (· = ·)) (fun _ ↦ same_of_ask _)
    (fun host log ↦ (Std.Refl.refl host : Host.Throughout (· = ·) host host).logging log) options around { host }

/-- Coming up disturbs nothing. -/
theorem staysQuiet_bootstrap (options : AgentOptions) (around : Surroundings) (host : Host) :
    Host.StaysQuiet host (bootstrap options around { host }).2.host :=
  leads_bootstrap (R := Host.StaysQuiet) (fun _ ↦ Host.staysQuiet_call _) (fun _ _ h ↦ h) options around { host }

/-! ## An agent that serves -/

/-- The worlds that a serving agent goes through: it has done with its pid file in the first, from which it
starts, has sent its departure in the second, and has removed the pid file in the last. -/
structure Served (agent : Agent) (options : AgentOptions) (around : Surroundings) (plan : StopPlan)
    (up : World) (file? : Option PidFile) (begun left after : World) : Prop where
  written : writePidFile options around.pid up = (.ok file?, begun)
  worked : (do
    report [⟨.info, "fleetd_agent", "Agent started",
      [("system_id", .shown agent.identity.systemId),
       ("task_queues", .shown (Text.quotedList agent.pool.queues))]⟩]
    work plan
    agent.stop) begun = (.ok (), left)
  closed : (do
    report [stopped]
    match file? with
    | some file => onHost Empty.elim file.drop
    | none => return) left = (.ok (), after)

theorem Served.starts {agent : Agent} {options : AgentOptions} {around : Surroundings} {plan : StopPlan}
    {up begun left after : World} {file? : Option PidFile}
    (h : Served agent options around plan up file? begun left after) :
    (do report [agent.started]; work plan; agent.stop) begun = (.ok (), left) :=
  h.worked

/-- Serving goes through its worlds: the pid file, the work and the departure, and the end. -/
theorem served_of_serve {agent : Agent} {options : AgentOptions} {around : Surroundings} {plan : StopPlan}
    {up after : World} (h : agent.serve options around plan up = (.ok (), after)) :
    ∃ file? begun left, Served agent options around plan up file? begun left after := by
  obtain ⟨file?, begun, hwritten, h⟩ := bind_eq_ok h
  obtain ⟨_, reported, hreport, h⟩ := bind_eq_ok h
  obtain ⟨_, asked, hwork, h⟩ := bind_eq_ok h
  obtain ⟨_, left, hstop, hclosed⟩ := bind_eq_ok h
  refine ⟨file?, begun, left, hwritten, ?_, hclosed⟩
  change (do report [agent.started]; work plan; agent.stop) begun = _
  rw [bind_of_ok hreport, bind_of_ok hwork]
  exact hstop

/-- What writing the pid file comes to. -/
inductive Writes (options : AgentOptions) (pid : Nat) (world : World) : Option PidFile → World → Prop where
  | without (hdir : options.pidDir? = none) : Writes options pid world none world
  | unwritten {directory : Path} {fault : FileError} {host : Host} (hdir : options.pidDir? = some directory)
      (hcreate : PidFile.create directory name pid world.host = (.error fault, host)) :
      Writes options pid world none (({ world with host } : World).reporting [pidFileFailed directory fault])
  | written {directory : Path} {file : PidFile} {host : Host} (hdir : options.pidDir? = some directory)
      (hcreate : PidFile.create directory name pid world.host = (.ok file, host)) :
      Writes options pid world (some file) { world with host }

/-- Writing the pid file comes to one of three ends: there is no directory for it, it failed, or the file is
there. -/
theorem writes_of_writePidFile {options : AgentOptions} {pid : Nat} {world after : World}
    {file? : Option PidFile} (h : writePidFile options pid world = (.ok file?, after)) :
    Writes options pid world file? after := by
  unfold writePidFile at h
  cases hdir : options.pidDir? with
  | none =>
    rw [hdir] at h
    obtain ⟨hfile, rfl⟩ := Prod.mk.inj h
    rw [← Except.ok.inj hfile]
    exact .without hdir
  | some directory =>
    rw [hdir] at h
    obtain ⟨result, created, hcreated, h⟩ := bind_eq_ok h
    rw [onHost_apply] at hcreated
    rcases hcreate : PidFile.create directory name pid world.host with ⟨told, host⟩
    simp only [Host.outcome, hcreate, Except.mapError] at hcreated
    obtain ⟨hresult, rfl⟩ := Prod.mk.inj hcreated
    obtain rfl := Except.ok.inj hresult
    cases told with
    | error fault =>
      obtain ⟨hfile, rfl⟩ := Prod.mk.inj h
      rw [← Except.ok.inj hfile]
      exact .unwritten hdir hcreate
    | ok file =>
      obtain ⟨hfile, rfl⟩ := Prod.mk.inj h
      rw [← Except.ok.inj hfile]
      exact .written hdir hcreate

/-- The files are not touched, and nothing disturbs them that did not before. -/
def Talks (world after : World) : Prop := ∃ log, after.host = { world.host with log }

instance : Std.Refl Talks := ⟨fun world ↦ ⟨world.host.log, rfl⟩⟩

instance : IsTrans World Talks := by
  refine ⟨?_⟩
  rintro first second third ⟨log, hlog⟩ ⟨more, hmore⟩
  exact ⟨more, by rw [hmore, hlog]⟩

theorem talks_report (events : List Log.Event) : Leads Talks (report events) := fun _ ↦ ⟨_, rfl⟩

theorem talks_work (plan : StopPlan) : Leads Talks (work plan) := by
  cases plan with
  | never => exact .throw _
  | after millis signal? => exact Leads.bind (fun world ↦ ⟨world.host.log, rfl⟩) fun _ ↦ talks_report _

theorem talks_stop (agent : Agent) : Leads Talks agent.stop := by
  intro world
  unfold stop
  rw [bind_of_ok (get_apply world)]
  cases world.link? with
  | none => exact Std.Refl.refl world
  | some link => exact ⟨_, rfl⟩

/-- An agent that stops announces its departure with the files as they are. -/
theorem stop_files (agent : Agent) {world : World} (h : world.link? ≠ none) :
    ∃ departure : Control.Sent, departure.IsDeparture ∧ departure.files = world.host.tree ∧
      (agent.stop world).2.sent = departure :: world.sent := by
  obtain ⟨link, hlink⟩ := Option.ne_none_iff_exists'.1 h
  unfold stop World.sent
  rw [bind_of_ok (get_apply world), hlink]
  exact ⟨_, ⟨_, rfl⟩, rfl, rfl⟩

/-! ## What is left -/

/-- The pid file is there while the agent works, with the number of the process on a line of its own, and gone
in the end. -/
structure Held (directory : Path) (pid : Nat) (host : Host) (begun left after : World) : Prop where
  before : begun.host.tree.Holds (pidPath directory) (toString pid ++ "\n").toUTF8
  meanwhile : Host.Throughout (fun _ tree ↦ tree.Holds (pidPath directory) (toString pid ++ "\n").toUTF8)
    begun.host left.host
  departed : ∃ departure earlier, left.sent = departure :: earlier ∧ departure.IsDeparture ∧
    departure.files.Holds (pidPath directory) (toString pid ++ "\n").toUTF8
  gone : after.host.tree.at? (host.tree.goal (pidPath directory)) = none
  rest : Host.Throughout (FileTree.Laid directory (· = host.tree.goal (pidPath directory))) host after.host

/-- What a run that serves does to the files. -/
inductive Footprint (options : AgentOptions) (pid : Nat) (host : Host) (begun left after : World) :
    Option PidFile → Prop where
  | without (hdir : options.pidDir? = none) (hsame : Host.Throughout (· = ·) host after.host) :
      Footprint options pid host begun left after none
  /-- Nothing but directories was made, and the last event before the agent started is a warning. -/
  | unwritten {directory : Path} {fault : FileError} (hdir : options.pidDir? = some directory)
      (hwarned : begun.host.log.head? = some ⟨.warn, "fleetd_agent", "Could not write pid file",
        [("dir", .shown directory.toString), ("error", .shown fault.message)]⟩)
      (hlaid : Host.Throughout (FileTree.Laid directory fun _ ↦ False) host after.host) :
      Footprint options pid host begun left after none
  | written {directory : Path} (hdir : options.pidDir? = some directory)
      (hheld : Held directory pid host begun left after) :
      Footprint options pid host begun left after (some ⟨pidPath directory⟩)

variable {options : AgentOptions} {around : Surroundings} {preparing : Except String StopPlan}
  {host : Host}

theorem Talks.tree_eq {world after : World} (h : Talks world after) : after.host.tree = world.host.tree := by
  obtain ⟨log, hlog⟩ := h
  rw [hlog]

theorem Talks.throughout {R : FileTree → FileTree → Prop} {world after : World} (h : Talks world after)
    (hhost : Host.Throughout R host world.host) : Host.Throughout R host after.host := by
  obtain ⟨log, hlog⟩ := h
  rw [hlog]
  exact hhost.logging log

theorem Talks.undisturbed {world after : World} (h : Talks world after) (hquiet : world.host.Undisturbed) :
    after.host.Undisturbed := by
  obtain ⟨log, hlog⟩ := h
  rw [hlog]
  exact hquiet

/-- From the start to the departure no file call is made. -/
theorem Served.talks {agent : Agent} {plan : StopPlan} {up begun left after : World}
    {file? : Option PidFile} (h : Served agent options around plan up file? begun left after) :
    Talks begun left := by
  have hleads := (talks_report [agent.started]).bind fun _ ↦ (talks_work plan).bind fun _ ↦ talks_stop agent
  have hworked := hleads begun
  rwa [h.starts] at hworked

theorem Served.talks_stopped {agent : Agent} {plan : StopPlan} {up begun left after : World}
    {file? : Option PidFile} (h : Served agent options around plan up file? begun left after) :
    Talks begun (left.reporting [stopped]) :=
  IsTrans.trans _ _ _ h.talks (talks_report [stopped] left)

/-- The files that the departure saw are those that were there when the agent started. -/
theorem Served.departed {agent : Agent} {plan : StopPlan} {up begun left after : World}
    {file? : Option PidFile} (h : Served agent options around plan up file? begun left after)
    (hlink : up.link? ≠ none) : ∃ departure earlier, left.sent = departure :: earlier ∧
      departure.IsDeparture ∧ departure.files = begun.host.tree := by
  obtain ⟨_, reported, hreport, hworked⟩ := bind_eq_ok h.starts
  obtain ⟨_, asked, hwork, hstop⟩ := bind_eq_ok hworked
  have hwritten := stays_writePidFile options around.pid up
  have hstarted := talks_report [agent.started] begun
  have hasked := talks_work plan reported
  have hwaited := stays_work plan reported
  rw [h.written] at hwritten
  rw [hreport] at hstarted
  rw [hwork] at hasked hwaited
  have hreported : reported.link? = begun.link? := by
    rw [report_apply] at hreport
    exact (congrArg World.link? (Prod.mk.inj hreport).2).symm
  have hstill : asked.link? ≠ none := by
    rw [hwaited.link, hreported, hwritten.link]
    exact hlink
  obtain ⟨departure, hdeparture, hfiles, hsent⟩ := stop_files agent hstill
  rw [hstop] at hsent
  refine ⟨departure, asked.sent, hsent, hdeparture, ?_⟩
  rw [hfiles, hasked.tree_eq, hstarted.tree_eq]

/-- A pid file that was written is there until the departure is sent, and gone behind it. -/
theorem Served.held {agent : Agent} {plan : StopPlan} {directory : Path} {up begun left after : World}
    (h : Served agent options around plan up (some ⟨pidPath directory⟩) begun left after)
    (hlink : up.link? ≠ none) (hquiet : begun.host.Undisturbed)
    (hholds : begun.host.tree.Holds (pidPath directory) (toString around.pid ++ "\n").toUTF8)
    (hlaid : Host.Throughout (FileTree.Laid directory (· = host.tree.goal (pidPath directory))) host
      begun.host) : Held directory around.pid host begun left after := by
  have htalks := h.talks_stopped
  obtain ⟨_, closed, hclosed, hdrop⟩ := bind_eq_ok h.closed
  obtain ⟨-, rfl⟩ := Prod.mk.inj hclosed
  obtain ⟨departure, earlier, hsent, hdeparture, hfiles⟩ := h.departed hlink
  have hstill := htalks.tree_eq
  have hthere : (left.reporting [stopped]).host.tree.Holds (pidPath directory)
      (toString around.pid ++ "\n").toUTF8 := hstill ▸ hholds
  obtain ⟨dropped, hdropped, hgone, honly⟩ :=
    PidFile.drop_spec ⟨pidPath directory⟩ (htalks.undisturbed hquiet) hthere
  have hafter : after.host = dropped := by
    have hworld : onHost Empty.elim (PidFile.drop ⟨pidPath directory⟩) (left.reporting [stopped]) =
      (.ok (), after) := hdrop
    rw [onHost_apply, hdropped] at hworld
    exact congrArg World.host (Prod.mk.inj hworld).2.symm
  rw [hstill, hlaid.ends.toKeepsDirs.goal] at hgone honly
  constructor
  case before => exact hholds
  case meanwhile =>
    obtain ⟨log, hlog⟩ := h.talks
    rw [hlog]
    exact ⟨⟨[], rfl, by simp⟩, hholds⟩
  case departed => exact ⟨departure, earlier, hsent, hdeparture, hfiles ▸ hholds⟩
  case gone => exact hafter ▸ hgone
  case rest =>
    rw [hafter]
    exact IsTrans.trans _ _ _ (htalks.throughout hlaid) (honly.mono fun _ hchanged ↦ hchanged.laid directory)

/-- What a serving agent does to the files is told by what writing its pid file came to. -/
theorem Served.footprint {agent : Agent} {plan : StopPlan} {up begun left after : World}
    {file? : Option PidFile} (h : Served agent options around plan up file? begun left after)
    (hlink : up.link? ≠ none) (hsame : Host.Throughout (· = ·) host up.host)
    (hquiet : up.host.Undisturbed) : Footprint options around.pid host begun left after file? := by
  have hnothing {R : FileTree → FileTree → Prop} [Std.Refl R] [IsTrans FileTree R] {begun : World}
      (h : Host.Throughout R up.host begun.host) : Host.Throughout R host begun.host := by
    refine IsTrans.trans _ _ _ (hsame.mono ?_) h
    rintro tree rfl
    exact Std.Refl.refl _
  have hclosed (hnone : file? = none) : Talks begun after := by
    subst hnone
    obtain ⟨_, closed, hreport, hclosed⟩ := bind_eq_ok h.closed
    obtain ⟨-, rfl⟩ := Prod.mk.inj hreport
    obtain ⟨-, rfl⟩ := Prod.mk.inj hclosed
    exact h.talks_stopped
  cases writes_of_writePidFile h.written with
  | without hdir => exact .without hdir ((hclosed rfl).throughout hsame)
  | unwritten hdir hcreate =>
    refine .unwritten hdir rfl ((hclosed rfl).throughout (hnothing ?_))
    exact (PidFile.create_eq_error hquiet hcreate).logging _
  | @written directory _ _ hdir hcreate =>
    obtain ⟨rfl, hholds, hlaid⟩ := PidFile.create_eq_ok hcreate
    have hgoal (path : Path) : up.host.tree.goal path = host.tree.goal path := by rw [← hsame.ends]
    have hstill := Host.staysQuiet_createPidFile directory name around.pid up.host hquiet
    rw [hcreate] at hstill
    rw [hgoal] at hlaid
    exact .written hdir (h.held hlink hstill hholds (hnothing hlaid))

/-- An agent that nobody asks to stop goes on. -/
theorem serve_never (agent : Agent) (options : AgentOptions) (around : Surroundings) (up : World) :
    ∃ halt after, agent.serve options around .never up = (.error halt, after) := by
  rcases hserve : agent.serve options around .never up with ⟨halt | _, after⟩
  · exact ⟨halt, after, rfl⟩
  · obtain ⟨file?, begun, left, hserved⟩ := served_of_serve hserve
    cases hserved.worked

/-- How a run ends is not a matter of the pid file. -/
theorem exit_eq_of_pidDir (options : AgentOptions) (around : Surroundings)
    (preparing : Except String StopPlan) (host : Host) (pidDir? : Option Path) :
    (run { options with pidDir? } around preparing host).exit? =
      (run options around preparing host).exit? := by
  have hboot : bootstrap { options with pidDir? } around { host } = bootstrap options around { host } := rfl
  unfold run
  rw [hboot]
  rcases bootstrap options around { host } with ⟨⟨error | _ | _⟩ | agent, up⟩
  · rfl
  · rfl
  · rfl
  · rcases preparing with reason | ⟨millis, signal?⟩ | _
    · rfl
    · obtain ⟨_, after, hserve⟩ := agent.serve_succeeds options around millis signal? up
      obtain ⟨_, other, hother⟩ := agent.serve_succeeds { options with pidDir? } around millis signal? up
      simp only [hserve, hother]
    · obtain ⟨_, after, hserve⟩ := agent.serve_never options around up
      obtain ⟨_, other, hother⟩ := agent.serve_never { options with pidDir? } around up
      simp only [hserve, hother]

/-- A run that does not serve leaves the files as they are, all the time. -/
theorem same_of_unserved
    (h : (run options around preparing host).exit? = some 1 ∨ ∃ reason, preparing = .error reason) :
    Host.Throughout (· = ·) host (run options around preparing host).world.host := by
  have hsame := same_bootstrap options around host
  unfold run at h ⊢
  rcases hboot : bootstrap options around { host } with ⟨⟨error | _ | _⟩ | agent, up⟩
  all_goals rw [hboot] at hsame h
  · exact hsame.logging _
  · exact hsame
  · exact hsame
  · rcases preparing with reason | plan
    · have habandoned : Talks up (agent.abandon reason up).2 :=
        ((talks_report _).bind fun _ ↦ talks_stop agent) up
      exact habandoned.throughout hsame
    · rcases h with hexit | ⟨reason, hreason⟩
      · dsimp only at hexit
        split at hexit
        · cases hexit
        · cases hexit
      · cases hreason

/-- A run with the exit code zero has served. -/
theorem serve_of_exit (h : (run options around preparing host).exit? = some 0) :
    ∃ agent plan up, bootstrap options around { host } = (.ok agent, up) ∧ preparing = .ok plan ∧
      agent.serve options around plan up = (.ok (), (run options around preparing host).world) := by
  unfold run at h ⊢
  rcases hboot : bootstrap options around { host } with ⟨⟨error | _ | _⟩ | agent, up⟩
  all_goals rw [hboot] at h
  · cases h
  · cases h
  · cases h
  · rcases preparing with reason | plan
    · cases h
    · rcases hserve : agent.serve options around plan up with ⟨halt | _, after⟩
      · simp only [hserve] at h
        cases h
      · exact ⟨agent, plan, up, rfl, rfl, by simp only [hserve]⟩

/-- A run that fails leaves the files as they are. One that serves, on a host that nothing disturbs, writes
its pid file, if it can, before it reports that it started, and removes it after its departure was sent; what
is left are directories on the way to it. How a run ends is not a matter of the pid file. -/
theorem run_footprint (options : AgentOptions) (around : Surroundings)
    (preparing : Except String StopPlan) (host : Host) :
    let ran := run options around preparing host
    (ran.exit? = some 1 ∨ (∃ reason, preparing = .error reason) →
      Host.Throughout (· = ·) host ran.world.host) ∧
    (ran.exit? = some 0 → host.Undisturbed → ∃ agent plan up file? begun left,
      bootstrap options around { host } = (.ok agent, up) ∧ preparing = .ok plan ∧
        Served agent options around plan up file? begun left ran.world ∧
        Footprint options around.pid host begun left ran.world file?) ∧
    ∀ pidDir?, (run { options with pidDir? } around preparing host).exit? = ran.exit? := by
  refine ⟨same_of_unserved, fun hexit hhost ↦ ?_, exit_eq_of_pidDir options around preparing host⟩
  obtain ⟨agent, plan, up, hboot, hplan, hserve⟩ := serve_of_exit hexit
  obtain ⟨file?, begun, left, hserved⟩ := served_of_serve hserve
  have hsame := same_bootstrap options around host
  have hquiet := staysQuiet_bootstrap options around host hhost
  have hspec := bootstrap_spec options around { host }
  rw [hboot] at hsame hquiet hspec
  obtain ⟨link, hlink⟩ := hspec.link_of_up
  have hlinked : up.link? ≠ none := hlink.symm ▸ Option.some_ne_none link
  exact ⟨agent, plan, up, file?, begun, left, hboot, hplan, hserved, hserved.footprint hlinked hsame hquiet⟩

/-- Options with a directory for the pid file that has to be made. -/
def resident : AgentOptions := { hasty with pidDir? := some (.ofString "/run/fleet") }

theorem resident_footprint :
    (run resident welcome (.ok (.after 5 none)) { tree := nodeFiles }).exit? = some 0 ∧
      ∃ begun left, Held (.ofString "/run/fleet") 1 { tree := nodeFiles } begun left
        (run resident welcome (.ok (.after 5 none)) { tree := nodeFiles }).world := by
  have hruns : (run resident welcome (.ok (.after 5 none)) { tree := nodeFiles }).exit? = some 0 ∧
      (writePidFile resident 1 (bootstrap resident welcome { host := { tree := nodeFiles } }).2).1.toOption =
        some (some ⟨pidPath (.ofString "/run/fleet")⟩) := by
    decide +kernel
  obtain ⟨hexit, hwritten⟩ := hruns
  obtain ⟨agent, plan, up, file?, begun, left, hboot, -, hserved, hfootprint⟩ :=
    (run_footprint resident welcome (.ok (.after 5 none)) { tree := nodeFiles }).2.1 hexit fun _ _ ↦ rfl
  rw [hboot, show writePidFile resident 1 up = _ from hserved.written] at hwritten
  have hfile : file? = some ⟨pidPath (.ofString "/run/fleet")⟩ := Option.some.inj hwritten
  cases hfootprint with
  | without hdir => cases hdir
  | unwritten hdir hwarned hlaid => cases hfile
  | written hdir hheld =>
    obtain rfl := Option.some.inj hdir
    exact ⟨hexit, begun, left, hheld⟩

end Agent

end FleetAgent
