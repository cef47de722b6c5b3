import FleetAgent.Proofs.Replacement
import FleetAgent.Proofs.StoreReading

/-!
# What becomes of a store

A store is read, changed, written and read again while its files change behind its back. However this
goes on, the store knows the file that was last read with success, an error leaves it as it was, what is
read replaces all that was changed since, and of all files only its own are ever written.
-/

namespace FleetAgent.Store

variable {store : Store} {path identityDir : Path} {tree : FileTree} {settings : Settings} {host : Host}

/-! ## Saving -/

def ownFiles (path identityDir : Path) : List Path :=
  [IdentityFile.systemId.path identityDir, IdentityFile.secret.path identityDir, path]

/-- Saving touches the files of the store and no others. -/
theorem touches_save (hfile : store.file = some path) :
    Leads (Host.Touches (ownFiles path store.identityDir)) store.save := by
  have hreplace {own : Path} (content : ByteArray) (hown : own ∈ ownFiles path store.identityDir) :
      Leads (Host.Touches (ownFiles path store.identityDir)) (Host.replaceFile own content) :=
    fun host ↦ (Host.touches_replaceFile own content host).mono (List.cons_subset.2 ⟨hown, List.nil_subset _⟩)
  have hwrite (file : IdentityFile) (value : String)
      (hown : file.path store.identityDir ∈ ownFiles path store.identityDir) :
      Leads (Host.Touches (ownFiles path store.identityDir)) (file.write store.identityDir value) :=
    (Host.leads_mapError _ (hreplace value.toUTF8 hown)).bind fun _ ↦ Host.touches_report _ _
  unfold save
  rw [getFile_of_file hfile, pure_bind]
  refine (Host.leads_mapError _ (hwrite .systemId _ (by simp [ownFiles]))).bind fun _ ↦ ?_
  refine (Host.leads_mapError _ (hwrite .secret _ (by simp [ownFiles]))).bind fun _ ↦ ?_
  refine (Host.leads_mapError _ (hreplace _ (by simp [ownFiles]))).bind fun _ ↦ ?_
  exact Host.touches_report _ _

/-- Without a file there is nothing to read again. -/
theorem reload_of_noFile (hfile : store.file = none) (host : Host) :
    store.reload host = (.error .noFile, host) := by
  unfold reload getFile
  rw [hfile]
  rfl

theorem save_of_noFile (hfile : store.file = none) (host : Host) :
    store.save host = (.error .noFile, host) := by
  unfold save getFile
  rw [hfile]
  rfl

/-! ## Turns -/

/-- What can happen to a store, and to the files behind its back. -/
inductive Act where
  | load (path : Path)
  | reload
  | save
  | change (edit : Settings → Settings)
  | outside (tree : FileTree)

def Act.Reads : Act → Prop
  | .load _ | .reload => True
  | _ => False

structure Scene where
  store : Store
  host : Host

/-- The store becomes what the activity gives, and stays as it is when that fails. -/
def Scene.adopt (scene : Scene) (act : HostM StoreError Store) : Except StoreError Unit × Scene :=
  match act scene.host with
  | (.ok store, host) => (.ok (), ⟨store, host⟩)
  | (.error error, host) => (.error error, { scene with host })

def Act.perform (scene : Scene) : Act → Except StoreError Unit × Scene
  | .load path => scene.adopt (scene.store.load path)
  | .reload => scene.adopt scene.store.reload
  | .save =>
    let (result, host) := scene.store.save scene.host
    (result, { scene with host })
  | .change edit => (.ok (), { scene with store.settings := edit scene.store.settings })
  | .outside tree => (.ok (), { scene with host.tree := tree })

/-- An act with its result, and how things were before it and are after it. -/
structure Turn where
  act : Act
  before : Scene
  result : Except StoreError Unit
  after : Scene

def Act.turn (act : Act) (scene : Scene) : Turn :=
  let (result, after) := act.perform scene
  ⟨act, scene, result, after⟩

/-- What comes of one act after the other. -/
def turns : List Act → Scene → List Turn
  | [], _ => []
  | act :: rest, scene => act.turn scene :: turns rest (act.turn scene).after

/-- The turn has read the settings with success. -/
def Turn.HasRead (turn : Turn) : Prop := turn.act.Reads ∧ turn.result = .ok ()

/-- The file that the turn has read the settings from. -/
def Turn.read? (turn : Turn) : Option Path :=
  match turn.act, turn.result with
  | .load path, .ok _ => some path
  | .reload, .ok _ => turn.before.store.file
  | _, _ => none

/-- The file that was read last, of all those that were read with success. -/
def latest (turns : List Turn) : Option Path := (turns.filterMap Turn.read?).getLast?

theorem latest_concat (turns : List Turn) (turn : Turn) :
    latest (turns ++ [turn]) = turn.read?.or (latest turns) := by
  unfold latest
  rw [List.filterMap_append, List.getLast?_append]
  cases hread : turn.read? <;> simp [hread]

/-! ## One turn -/

/-- What a turn does, whatever the act. -/
structure Turn.Lawful (turn : Turn) : Prop where
  identityDir : turn.after.store.identityDir = turn.before.store.identityDir
  file : turn.after.store.file = turn.read?.or turn.before.store.file
  failed : ∀ error, turn.result = .error error → turn.after.store = turn.before.store
  read : turn.HasRead → ∃ path, turn.read? = some path ∧
    Says path turn.before.store.identityDir turn.before.host.tree turn.after.store.settings
  watched : turn.act.Reads → turn.after.host.tree = turn.before.host.tree
  quiet : turn.before.host.Undisturbed → turn.after.host.Undisturbed

/-- Only what is asked of the tree is done, and a host that nothing disturbed stays undisturbed. -/
def Watches (host after : Host) : Prop := after.tree = host.tree ∧ Host.StaysQuiet host after

instance : Std.Refl Watches := ⟨fun host ↦ ⟨rfl, Std.Refl.refl host⟩⟩

instance : IsTrans Host Watches :=
  ⟨fun _ _ _ h h' ↦ ⟨h'.1.trans h.1, IsTrans.trans _ _ _ h.2 h'.2⟩⟩

theorem watches_load (store : Store) (path : Path) : Leads Watches (store.load path) :=
  Host.leads_load (fun _ host ↦ ⟨Host.tree_ask _ host, Host.staysQuiet_call _ host⟩)
    (fun _ _ _ ↦ ⟨rfl, fun h ↦ h⟩) store path

/-- Reading a file makes the store say what the files say, or leaves it as it is. -/
theorem lawful_load {act : Act} {scene : Scene} (hperform : act.perform scene = scene.adopt (scene.store.load path))
    (hpath : ∀ after, Turn.read? ⟨act, scene, .ok (), after⟩ = some path) : (act.turn scene).Lawful := by
  have hturn : act.turn scene = ⟨act, scene, (scene.adopt (scene.store.load path)).1,
      (scene.adopt (scene.store.load path)).2⟩ := by
    rw [Act.turn, hperform]
  have hwatches := watches_load scene.store path scene.host
  rw [hturn]
  unfold Scene.adopt
  rcases hload : scene.store.load path scene.host with ⟨error | loaded, host⟩ <;> rw [hload] at hwatches
  · have hnone : Turn.read? ⟨act, scene, .error error, { scene with host }⟩ = none := by
      cases act <;> rfl
    exact ⟨rfl, by rw [hnone]; rfl, fun _ _ ↦ rfl, fun h ↦ (nomatch h.2), fun _ ↦ hwatches.1, hwatches.2⟩
  · obtain ⟨settings, hsays, rfl⟩ := load_eq_ok hload
    exact ⟨rfl, by rw [hpath]; rfl, nofun, fun _ ↦ ⟨path, hpath _, hsays⟩, fun _ ↦ hwatches.1, hwatches.2⟩

/-- As long as no file is known it can neither be read again nor be written. -/
theorem turn_of_noFile {act : Act} {scene : Scene} (hfile : scene.store.file = none)
    (hact : act = .reload ∨ act = .save) : act.turn scene = ⟨act, scene, .error .noFile, scene⟩ := by
  rcases hact with rfl | rfl
  · rw [Act.turn, Act.perform, Scene.adopt, reload_of_noFile hfile]
  · rw [Act.turn, Act.perform, save_of_noFile hfile]

/-- Every act is lawful. -/
theorem Act.lawful (act : Act) (scene : Scene) : (act.turn scene).Lawful := by
  cases act with
  | load path => exact lawful_load rfl fun _ ↦ rfl
  | reload =>
    cases hfile : scene.store.file with
    | none =>
      rw [turn_of_noFile hfile (.inl rfl)]
      exact ⟨rfl, rfl, fun _ _ ↦ rfl, fun h ↦ (nomatch h.2), fun _ ↦ rfl, fun h ↦ h⟩
    | some path =>
      refine lawful_load ?_ fun _ ↦ hfile
      rw [perform, reload_of_file hfile]
  | save =>
    refine ⟨rfl, rfl, fun _ _ ↦ rfl, fun h ↦ h.1.elim, fun h ↦ h.elim, fun hquiet ↦ ?_⟩
    cases hfile : scene.store.file with
    | none =>
      rw [turn_of_noFile hfile (.inr rfl)]
      exact hquiet
    | some path => exact ((touches_save hfile scene.host).quiet hquiet).1
  | change edit => exact ⟨rfl, rfl, nofun, fun h ↦ h.1.elim, fun h ↦ h.elim, fun h ↦ h⟩
  | outside tree => exact ⟨rfl, rfl, nofun, fun h ↦ h.1.elim, fun h ↦ h.elim, fun h ↦ h⟩

/-! ## All turns -/

variable {turn : Turn} {past earlier later : List Turn} {scene : Scene} {start : Host}

theorem hasRead_of_read? (h : turn.read?.isSome) : turn.HasRead := by
  obtain ⟨act, before, result, after⟩ := turn
  cases act <;> cases result <;> first | exact ⟨trivial, rfl⟩ | cases h

/-- What is known of the scene that the turns have led to. -/
structure Follows (identityDir : Path) (start : Host) (past : List Turn) (scene : Scene) : Prop where
  identityDir : scene.store.identityDir = identityDir
  file : scene.store.file = latest past
  read : ∀ turn ∈ past, turn.HasRead → turn.read?.isSome
  quiet : start.Undisturbed → scene.host.Undisturbed

/-- What is known of a scene is still known behind a lawful turn. -/
theorem Follows.concat (h : Follows identityDir start past turn.before) (hturn : turn.Lawful) :
    Follows identityDir start (past ++ [turn]) turn.after where
  identityDir := hturn.identityDir.trans h.identityDir
  file := by rw [hturn.file, h.file, latest_concat]
  read := by
    intro other hother hread
    rcases List.mem_append.1 hother with hpast | hlast
    · exact h.read other hpast hread
    · obtain rfl := List.mem_singleton.1 hlast
      obtain ⟨path, hpath, -⟩ := hturn.read hread
      rw [hpath]
      rfl
  quiet hstart := hturn.quiet (h.quiet hstart)

/-- There is a file as soon as one was read with success. -/
theorem Follows.isSome_file (h : Follows identityDir start past scene) :
    scene.store.file.isSome ↔ ∃ turn ∈ past, turn.HasRead := by
  rw [h.file, latest, List.getLast?_isSome]
  constructor
  · intro hsome
    obtain ⟨path, hpath⟩ := List.exists_mem_of_ne_nil _ hsome
    obtain ⟨turn, hturn, hread⟩ := List.mem_filterMap.1 hpath
    exact ⟨turn, hturn, hasRead_of_read? (by rw [hread]; rfl)⟩
  · rintro ⟨turn, hturn, hread⟩
    obtain ⟨path, hpath⟩ := Option.isSome_iff_exists.1 (h.read turn hturn hread)
    exact List.ne_nil_of_mem (List.mem_filterMap.2 ⟨turn, hturn, hpath⟩)

/-- At every turn of a sequence the scene follows from the turns before. -/
theorem follows_of_turns {acts : List Act} (h : Follows identityDir start past scene)
    (hturns : turns acts scene = earlier ++ turn :: later) :
    ∃ act before, turn = Act.turn act before ∧ Follows identityDir start (past ++ earlier) before := by
  induction acts generalizing past earlier scene with
  | nil => simp [turns] at hturns
  | cons act rest ih =>
    rw [turns] at hturns
    cases earlier with
    | nil =>
      obtain ⟨rfl, -⟩ := List.cons.inj hturns
      rw [List.append_nil]
      exact ⟨act, scene, rfl, h⟩
    | cons first more =>
      obtain ⟨rfl, hmore⟩ := List.cons.inj hturns
      rw [List.append_cons]
      exact ih (Follows.concat h (act.lawful scene)) hmore

/-- What can be told of a turn and of all those before it, in the sequence of turns of a new store. -/
structure Turn.Accounted (identityDir : Path) (start : Host) (earlier : List Turn) (turn : Turn) : Prop where
  file : turn.after.store.file = latest (earlier ++ [turn])
  known : turn.after.store.file.isSome ↔ ∃ other ∈ earlier ++ [turn], other.HasRead
  failed : ∀ error, turn.result = .error error → turn.after.store = turn.before.store
  read : turn.HasRead → ∃ path, turn.after.store.file = some path ∧
    ∀ settings, Says path identityDir turn.before.host.tree settings ↔ settings = turn.after.store.settings
  readable : start.Undisturbed → ∀ path settings, turn.act = .load path →
    Says path identityDir turn.before.host.tree settings → turn.HasRead
  unknown : (∀ other ∈ earlier, ¬ other.HasRead) → turn.act = .reload ∨ turn.act = .save →
    turn.result = .error .noFile ∧ turn.after.host.tree = turn.before.host.tree
  watched : turn.act.Reads → turn.after.host.tree = turn.before.host.tree
  written : turn.act = .save → ∀ path, latest earlier = some path →
    Host.Touches (ownFiles path identityDir) turn.before.host turn.after.host
  quiet : start.Undisturbed → turn.before.host.Undisturbed

/-- A store knows the file that was read last with success, and none before that. An error leaves it as it
was, and what is read makes it say what the files say. Reading changes no file, and writing changes none
but the settings file that is known and those of the identity. -/
theorem turns_accounted (identityDir : Path) (start : Host) (acts : List Act) {earlier later : List Turn}
    {turn : Turn} (hturns : turns acts ⟨{ identityDir }, start⟩ = earlier ++ turn :: later) :
    turn.Accounted identityDir start earlier := by
  have hbegin : Follows identityDir start [] ⟨{ identityDir }, start⟩ := ⟨rfl, rfl, by simp, fun h ↦ h⟩
  obtain ⟨act, before, rfl, hbefore⟩ := follows_of_turns hbegin hturns
  rw [List.nil_append] at hbefore
  have hlawful := act.lawful before
  have hafter := Follows.concat hbefore hlawful
  refine ⟨hafter.file, hafter.isSome_file, hlawful.failed, fun hread ↦ ?_,
    fun hstart path settings hload hsays ↦ ?_, fun hnone hact ↦ ?_, hlawful.watched, fun hsave path hpath ↦ ?_,
    hbefore.quiet⟩
  · obtain ⟨path, hpath, hsays⟩ := hlawful.read hread
    replace hsays : Says path identityDir before.host.tree (act.turn before).after.store.settings :=
      hbefore.identityDir ▸ hsays
    refine ⟨path, by rw [hlawful.file, hpath]; rfl, fun settings ↦ ⟨fun h ↦ h.unique hsays, ?_⟩⟩
    rintro rfl
    exact hsays
  · obtain rfl : act = .load path := hload
    rw [← hbefore.identityDir] at hsays
    obtain ⟨after, hloaded, -⟩ :=
      hsays.yields_load before.host (.of_undisturbed (hbefore.quiet hstart))
    refine ⟨trivial, ?_⟩
    rw [Act.turn, Act.perform, Scene.adopt, hloaded]
  · have hfile : before.store.file = none := by
      rw [← Option.not_isSome_iff_eq_none, hbefore.isSome_file]
      exact fun ⟨other, hother, hread⟩ ↦ hnone other hother hread
    have hturn : act.turn before = ⟨act, before, .error .noFile, before⟩ := turn_of_noFile hfile hact
    rw [hturn]
    exact ⟨rfl, rfl⟩
  · obtain rfl : act = .save := hsave
    exact hbefore.identityDir ▸ touches_save (hbefore.file.trans hpath) before.host

def twoFiles : Host where
  tree.root := .dir [("etc".toList, .dir [
    ("agent.yaml".toList, .file "cluster_id: east\n".toUTF8), ("broken.yaml".toList, .file "proxy: [\n".toUTF8),
    ("secret".toList, .file "s3cret\n".toUTF8), ("system_id".toList, .file "node-1\n".toUTF8)])]

/-- One file is read, the other cannot be read, and the store is saved. -/
def retreat : List Act :=
  [.save, .load (.ofString "/etc/agent.yaml"), .change fun settings ↦ { settings with debug := true },
    .load (.ofString "/etc/broken.yaml"), .save, .reload]

/-- What is saved behind a file that cannot be read goes to the file that was read before it. -/
theorem retreat_accounted :
    ∃ earlier turn later,
      turns retreat ⟨{ identityDir := .ofString "/etc" }, twoFiles⟩ = earlier ++ turn :: later ∧
        turn.Accounted (.ofString "/etc") twoFiles earlier ∧ turn.act = .save ∧ turn.result.isOk = true ∧
        turn.after.store.file = some (.ofString "/etc/agent.yaml") ∧ earlier.length = 4 := by
  refine ⟨[_, _, _, _], _, [_], rfl, turns_accounted _ twoFiles retreat rfl, rfl, ?_, ?_, rfl⟩
  · decide +kernel
  · decide +kernel

end FleetAgent.Store
