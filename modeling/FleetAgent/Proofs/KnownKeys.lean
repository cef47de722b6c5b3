import FleetAgent.Proofs.BlankTexts
import FleetAgent.Proofs.EntryOrder
import FleetAgent.Proofs.LoadStages

/-!
# What the settings file decides

The settings file decides the settings by its known entries alone. Entries with other keys may be added to
it, and to its sections, and the entries may be put in any order; a controller may stand by itself or in a
list of one. The identity of the agent is not among the known entries, so no entry supplies it.
-/

namespace FleetAgent

/-! ## The clauses of the sections and of the whole -/

inductive Metrics.Clause where
  | bind (address : String)
  | port (port : UInt16)
  | caCert (path : String)
  | cert (path : String)
  | key (path : String)

def Metrics.clauses : Settings.Clauses Metrics.Clause Metrics where
  key
    | .bind _ => "bind"
    | .port _ => "port"
    | .caCert _ => "ca_cert"
    | .cert _ => "cert"
    | .key _ => "priv_key"
  put
    | .bind bind, metrics => { metrics with bind }
    | .port port, metrics => { metrics with port }
    | .caCert caCert, metrics => { metrics with caCert }
    | .cert cert, metrics => { metrics with cert }
    | .key key, metrics => { metrics with key }
  apart {first second} hkeys _ := by
    cases first <;> cases second <;> first | rfl | exact absurd rfl hkeys

inductive Tls.Clause where
  | caCert (path : String)
  | cert (path : String)
  | key (path : String)
  | skipCaCheck (skips : Bool)

def Tls.clauses : Settings.Clauses Tls.Clause Tls where
  key
    | .caCert _ => "ca_cert"
    | .cert _ => "cert"
    | .key _ => "priv_key"
    | .skipCaCheck _ => "insecure_ca"
  put
    | .caCert caCert, tls => { tls with caCert }
    | .cert cert, tls => { tls with cert }
    | .key key, tls => { tls with key }
    | .skipCaCheck skipCaCheck, tls => { tls with skipCaCheck }
  apart {first second} hkeys _ := by
    cases first <;> cases second <;> first | rfl | exact absurd rfl hkeys

namespace Settings

open Yaml (Node Document)

inductive Clause where
  | controllers (endpoints : List String)
  | tftpRoot (path : String)
  | tftpPort (port : UInt16)
  | clusterId (name : String)
  | debug (isOn : Bool)
  | metrics (metrics : Metrics)
  | tls (tls : Tls)
  | supervisor (address? : Option String)
  | proxy (isOn : Bool)
  | ntpBindAddr (address : String)
  | ntpRefreshRate (rate : UInt64)

def clauses : Clauses Clause Settings where
  key
    | .controllers _ => "controllers"
    | .tftpRoot _ => "tftp_root"
    | .tftpPort _ => "tftp_port"
    | .clusterId _ => "cluster_id"
    | .debug _ => "debug"
    | .metrics _ => "metrics"
    | .tls _ => "rpc"
    | .supervisor _ => "supervisord"
    | .proxy _ => "proxy"
    | .ntpBindAddr _ => "ntp_bind_addr"
    | .ntpRefreshRate _ => "ntp_refresh_rate"
  put
    | .controllers controllers, settings => { settings with controllers }
    | .tftpRoot tftpRoot, settings => { settings with tftpRoot }
    | .tftpPort tftpPort, settings => { settings with tftpPort }
    | .clusterId clusterId, settings => { settings with clusterId }
    | .debug debug, settings => { settings with debug }
    | .metrics metrics, settings => { settings with metrics }
    | .tls tls, settings => { settings with tls }
    | .supervisor supervisor, settings => { settings with supervisor }
    | .proxy proxy, settings => { settings with proxy }
    | .ntpBindAddr ntpBindAddr, settings => { settings with ntpBindAddr }
    | .ntpRefreshRate ntpRefreshRate, settings => { settings with ntpRefreshRate }
  apart {first second} hkeys _ := by
    cases first <;> cases second <;> first | rfl | exact absurd rfl hkeys

/-- Each known entry of the metrics section says one clause. -/
theorem readsClauses_metrics (depth : Nat) :
    ReadsClauses Metrics.clauses metricsEntry metricsKeys depth fun _ ↦ Node.Alike where
  clause hname halike field hnode hdepth _ _ _ _ h := by
    subst hnode
    simp only [metricsKeys, List.mem_cons, List.not_mem_nil, or_false] at hname
    have htext := Field.carries_text "a string"
    obtain rfl | rfl | rfl | rfl | rfl := hname
    · exact htext.puts Metrics.Clause.bind (fun _ ↦ rfl) (fun _ _ ↦ rfl) halike hdepth h
    · exact Field.carries_word16.puts Metrics.Clause.port (fun _ ↦ rfl) (fun _ _ ↦ rfl) halike hdepth h
    · exact htext.puts Metrics.Clause.caCert (fun _ ↦ rfl) (fun _ _ ↦ rfl) halike hdepth h
    · exact htext.puts Metrics.Clause.cert (fun _ ↦ rfl) (fun _ _ ↦ rfl) halike hdepth h
    · exact htext.puts Metrics.Clause.key (fun _ ↦ rfl) (fun _ _ ↦ rfl) halike hdepth h
  whole _ halike := halike.isWhole

/-- Each known entry of the section for the connection says one clause. -/
theorem readsClauses_tls (depth : Nat) :
    ReadsClauses Tls.clauses tlsEntry tlsKeys depth fun _ ↦ Node.Alike where
  clause hname halike field hnode hdepth _ _ _ _ h := by
    subst hnode
    simp only [tlsKeys, List.mem_cons, List.not_mem_nil, or_false] at hname
    have htext := Field.carries_text "a string"
    obtain rfl | rfl | rfl | rfl := hname
    · exact htext.puts Tls.Clause.caCert (fun _ ↦ rfl) (fun _ _ ↦ rfl) halike hdepth h
    · exact htext.puts Tls.Clause.cert (fun _ ↦ rfl) (fun _ _ ↦ rfl) halike hdepth h
    · exact htext.puts Tls.Clause.key (fun _ ↦ rfl) (fun _ _ ↦ rfl) halike hdepth h
    · exact Field.carries_bool.puts Tls.Clause.skipCaCheck (fun _ ↦ rfl) (fun _ _ ↦ rfl) halike hdepth h
  whole _ halike := halike.isWhole

/-- The value of a known entry in another form: the same value elsewhere in the text, the list of one
controller for the controller, or a section with its entries rearranged. -/
inductive Restated : String → Node → Node → Prop where
  | same {name : String} {value value' : Node} (halike : value.Alike value') : Restated name value value'
  | listed {value item : Node} {text : List Char} (hvalue : Field.IsText value text)
      (hitem : Field.IsText item text) (mark : Yaml.Mark) :
    Restated "controllers" value (.sequence mark none [item])
  | metrics {value value' : Node} (hresorted : Resorted metricsKeys (fun _ ↦ Node.Alike) value value') :
    Restated "metrics" value value'
  | tls {value value' : Node} (hresorted : Resorted tlsKeys (fun _ ↦ Node.Alike) value value') :
    Restated "rpc" value value'

theorem puts_same {depth : Nat} {name : String} (hname : name ∈ keys) {field : Field} {value' : Node}
    (halike : field.node.Alike value') (hdepth : field.depth = depth) {before result : Settings} {count after : Nat}
    (h : entry name field before count = .ok (result, after)) :
    Puts clauses entry depth name value' before result := by
  have htext := Field.carries_text "a string"
  have hsupervisor := htext.optional
  have hmetrics := carries_record readsClauses_metrics "MetricsConfig" {}
  have htls := carries_record readsClauses_tls "TlsConfig" {}
  simp only [keys, List.mem_cons, List.not_mem_nil, or_false] at hname
  obtain rfl | rfl | rfl | rfl | rfl | rfl | rfl | rfl | rfl | rfl | rfl := hname
  · exact Field.carries_oneOrMany.puts Clause.controllers (fun _ ↦ rfl) (fun _ _ ↦ rfl) halike hdepth h
  · exact htext.puts Clause.tftpRoot (fun _ ↦ rfl) (fun _ _ ↦ rfl) halike hdepth h
  · exact Field.carries_word16.puts Clause.tftpPort (fun _ ↦ rfl) (fun _ _ ↦ rfl) halike hdepth h
  · exact htext.puts Clause.clusterId (fun _ ↦ rfl) (fun _ _ ↦ rfl) halike hdepth h
  · exact Field.carries_bool.puts Clause.debug (fun _ ↦ rfl) (fun _ _ ↦ rfl) halike hdepth h
  · exact hmetrics.puts Clause.metrics (fun _ ↦ rfl) (fun _ _ ↦ rfl) halike hdepth h
  · exact htls.puts Clause.tls (fun _ ↦ rfl) (fun _ _ ↦ rfl) halike hdepth h
  · exact hsupervisor.puts Clause.supervisor (fun _ ↦ rfl) (fun _ _ ↦ rfl) halike hdepth h
  · exact Field.carries_bool.puts Clause.proxy (fun _ ↦ rfl) (fun _ _ ↦ rfl) halike hdepth h
  · exact htext.puts Clause.ntpBindAddr (fun _ ↦ rfl) (fun _ _ ↦ rfl) halike hdepth h
  · exact Field.carries_word64.puts Clause.ntpRefreshRate (fun _ ↦ rfl) (fun _ _ ↦ rfl) halike hdepth h

/-- Each known entry of the settings says one clause, in any of the forms that its value can take. -/
theorem readsClauses (depth : Nat) : ReadsClauses clauses entry keys (depth + 1) Restated where
  clause hname hrestated field hnode hdepth _ _ _ _ h := by
    subst hnode
    cases hrestated with
    | same halike => exact puts_same hname halike hdepth h
    | listed hvalue hitem mark =>
      refine puts_of_reading Clause.controllers (fun _ ↦ rfl) (fun _ _ ↦ rfl) (fun hgiven other hnode hdepth ↦ ?_) h
      rw [Field.oneOrMany_of_isText hvalue] at hgiven
      cases hgiven
      exact Field.oneOrMany_of_listed hitem hnode (by omega)
    | metrics hresorted =>
      exact (carries_resorted readsClauses_metrics "MetricsConfig" {}).puts Clause.metrics (fun _ ↦ rfl)
        (fun _ _ ↦ rfl) hresorted hdepth h
    | tls hresorted =>
      exact (carries_resorted readsClauses_tls "TlsConfig" {}).puts Clause.tls (fun _ ↦ rfl)
        (fun _ _ ↦ rfl) hresorted hdepth h
  whole hname hrestated := by
    cases hrestated with
    | same halike => exact halike.isWhole
    | listed => exact absurd (by decide) hname
    | metrics => exact absurd (by decide) hname
    | tls => exact absurd (by decide) hname

theorem ofDocument_eq_ok {document : Document} {settings : Settings} :
    ofDocument document = .ok settings ↔ document.alone = true ∧ ∃ after,
      Field.record { document, node := document.root } "RackConfig" keys {} entry 0 = .ok (settings, after) := by
  change (Field.record { document, node := document.root } "RackConfig" keys {} entry 0 >>= fun read ↦
    if document.alone then pure read.1 else throw .unreadable) = .ok settings ↔ _
  cases Field.record { document, node := document.root } "RackConfig" keys {} entry 0 with
  | error fault => exact ⟨nofun, nofun⟩
  | ok read =>
    cases document.alone with
    | false => exact ⟨nofun, nofun⟩
    | true =>
      refine ⟨fun h ↦ ⟨rfl, read.2, ?_⟩, fun ⟨_, _, h⟩ ↦ ?_⟩
      · cases h
        rfl
      · cases h
        rfl

/-- Two documents hold the same settings if their entries are the same but for their order, and for entries
with other keys. -/
theorem ofDocument_rearranged {document document' : Document}
    (hresorted : Resorted keys Restated document.root document'.root) (halone : document'.alone = true)
    {settings : Settings} (h : ofDocument document = .ok settings) : ofDocument document' = .ok settings := by
  obtain ⟨-, after, hread⟩ := ofDocument_eq_ok.1 h
  generalize hroot : document.root = root at hresorted
  generalize hroot' : document'.root = root' at hresorted
  obtain ⟨hrearranged⟩ := hresorted
  -- The root is read at depth 128, so its entries are at 127, and a list or a section finds a level below them.
  have hread' : Field.record { document := document', node := document'.root } "RackConfig" keys {} entry =
      pure settings := record_rearranged (readsClauses 126) hrearranged hroot hroot' rfl rfl hread
  refine ofDocument_eq_ok.2 ⟨halone, 0, ?_⟩
  rw [hread']
  rfl

/-- The text holds a single document, and that is a mapping with these entries. -/
def Lists (text : String) (entries : List (Node × Node)) : Prop :=
  ∃ document mark tag, Document.ofText text = some document ∧ document.alone = true ∧
    document.root = .mapping mark tag entries

end Settings

namespace Store

open Settings (Lists Rearranged Restated)
open Yaml (Node)

variable {text text' : String} {entries entries' : List (Node × Node)}

/-- A text that lists entries says what its document does. -/
theorem parse_of_lists (h : Lists text entries) : ∃ document mark tag, document.alone = true ∧
    document.root = .mapping mark tag entries ∧ parse text = Settings.ofDocument document := by
  obtain ⟨document, mark, tag, hdocument, halone, hroot⟩ := h
  refine ⟨document, mark, tag, halone, hroot, ?_⟩
  have hshown : ¬ Text.isBlankText text = true :=
    fun hblank ↦ Yaml.mapless_of_blank hblank hdocument mark tag entries hroot
  rw [parse, if_neg hshown, Settings.ofText, hdocument]

/-- Texts with rearranged entries say the same settings. -/
theorem parse_rearranged (hlists : Lists text entries) (hlists' : Lists text' entries')
    (hrearranged : Rearranged Settings.keys Restated entries entries') {said : Settings} (h : parse text = .ok said) :
    parse text' = .ok said := by
  obtain ⟨document, mark, tag, -, hroot, hparse⟩ := parse_of_lists hlists
  obtain ⟨document', mark', tag', halone, hroot', hparse'⟩ := parse_of_lists hlists'
  rw [hparse] at h
  rw [hparse']
  refine Settings.ofDocument_rearranged ?_ halone h
  rw [hroot, hroot']
  exact .mapping hrearranged

/-- The settings that are loaded stay the same when entries with unknown keys are added, to the whole or to a
section, when the entries are put in another order, and when a controller is put into a list of its own. The
identity comes from its files, and no entry of the settings file is known under its names. -/
theorem known_entries_decide {store loaded : Store} {path : Path} {host host' : Host}
    (htext : host.textAt 0 path = .ok text) (hlists : Lists text entries)
    (htext' : host'.textAt 0 path = .ok text') (hlists' : Lists text' entries')
    (hrearranged : Rearranged Settings.keys Restated entries entries')
    (hsystemId : host'.textAt 1 (IdentityFile.systemId.path store.identityDir) =
      host.textAt 1 (IdentityFile.systemId.path store.identityDir))
    (hsecret : host'.textAt 2 (IdentityFile.secret.path store.identityDir) =
      host.textAt 2 (IdentityFile.secret.path store.identityDir))
    (hload : (store.load path host).1 = .ok loaded) :
    (store.load path host').1 = .ok loaded ∧ loaded.settings.base = store.identityDir ∧
      (host.textAt 1 (IdentityFile.systemId.path store.identityDir)).map Text.strip = .ok loaded.settings.systemId ∧
      (host.textAt 2 (IdentityFile.secret.path store.identityDir)).map Text.strip = .ok loaded.settings.secret ∧
      ∀ name ∈ ["system_id", "secret", "base_path"], name ∉ Settings.keys := by
  rw [load_fst, map_eq_ok_iff] at hload
  obtain ⟨settings, hjudged, rfl⟩ := hload
  obtain ⟨said, name, shared, hsound, hname, hshared, rfl⟩ := judged_eq_ok_iff.1 hjudged
  obtain ⟨⟨content, hcontent, htells⟩, hrpc, hmetrics⟩ := hsound
  obtain rfl := Except.ok.inj (htext.symm.trans hcontent)
  have hparse' := parse_rearranged hlists hlists' hrearranged (tells_iff.1 htells).symm
  have hsound' : Sound (host'.textAt 0 path) said := ⟨⟨text', htext', tells_iff.2 hparse'.symm⟩, hrpc, hmetrics⟩
  refine ⟨?_, rfl, ?_, ?_, by decide⟩
  · rw [load_fst, map_eq_ok_iff]
    exact ⟨_, judged_eq_ok_iff.2 ⟨said, name, shared, hsound', hsystemId.trans hname, hsecret.trans hshared, rfl⟩, rfl⟩
  · rw [hname]
    rfl
  · rw [hshared]
    rfl

/-- A settings text, and the same settings with more around them and in another order. -/
def terse : String := "controllers: hub\nmetrics: \x7bport: 9\x7d\n"

def wordy : String := "metrics:\n  unit: s\n  port: 9\nsystem_id: [other]\ncontrollers: [hub]\n"

def nodeHost (text : String) : Host where
  tree.root := .dir [("agent.yaml".toList, .file text.toUTF8), ("secret".toList, .file "s3cret\n".toUTF8),
    ("system_id".toList, .file "node-1\n".toUTF8)]

/-- The second text adds an entry that names another identity and one to the section, puts the section in
front, and lists the controller. -/
theorem wordy_decides_no_more :
    let store : Store := { identityDir := .ofString "/" }
    let path : Path := .ofString "/agent.yaml"
    ∃ loaded, (store.load path (nodeHost terse)).1 = .ok loaded ∧ (store.load path (nodeHost wordy)).1 = .ok loaded ∧
      loaded.settings.controllers = ["hub"] ∧ loaded.settings.metrics.port = 9 ∧
      loaded.settings.systemId = "node-1" := by
  intro store path
  let word (text : String) (mark : Yaml.Mark) : Node := .scalar mark none .plain text.toList
  let port : Node × Node := (word "port" ⟨27, 1, 10⟩, word "9" ⟨33, 1, 16⟩)
  let port' : Node × Node := (word "port" ⟨21, 2, 2⟩, word "9" ⟨27, 2, 8⟩)
  let unit : Node × Node := (word "unit" ⟨11, 1, 2⟩, word "s" ⟨17, 1, 8⟩)
  let controllers : Node × Node := (word "controllers" ⟨0, 0, 0⟩, word "hub" ⟨13, 0, 13⟩)
  let controllers' : Node × Node := (word "controllers" ⟨48, 4, 0⟩, .sequence ⟨61, 4, 13⟩ none [word "hub" ⟨62, 4, 14⟩])
  let metrics : Node × Node := (word "metrics" ⟨17, 1, 0⟩, .mapping ⟨26, 1, 9⟩ none [port])
  let metrics' : Node × Node := (word "metrics" ⟨0, 0, 0⟩, .mapping ⟨11, 1, 2⟩ none [unit, port'])
  let systemId : Node × Node := (word "system_id" ⟨29, 3, 0⟩, .sequence ⟨40, 3, 11⟩ none [word "other" ⟨41, 3, 12⟩])
  have hterse : Lists terse [controllers, metrics] :=
    ⟨⟨.mapping {} none [controllers, metrics], [], 9, true⟩, {}, none, by with_unfolding_all rfl, rfl, rfl⟩
  have hwordy : Lists wordy [metrics', systemId, controllers'] :=
    ⟨⟨.mapping {} none [metrics', systemId, controllers'], [], 17, true⟩, {}, none, by with_unfolding_all rfl, rfl, rfl⟩
  have hword (text : String) (mark : Yaml.Mark) : Settings.Names (word text mark) text := by
    have hname := Settings.Names.scalar mark none .plain text.toList
    rwa [String.ofList_toList] at hname
  have hmoved (text : String) (mark mark' : Yaml.Mark) : (word text mark).Alike (word text mark') := .scalar ..
  have hhub (mark : Yaml.Mark) : Settings.Field.IsText (word "hub" mark) "hub".toList := .scalar mark rfl rfl
  have hsection : Settings.Resorted Settings.metricsKeys (fun _ ↦ Node.Alike) metrics.2 metrics'.2 := by
    refine .mapping ⟨[port'], [unit], .cons ⟨hmoved .., fun _ _ ↦ hmoved ..⟩ .nil, .swap .., ?_⟩
    exact List.forall_mem_singleton.2 ⟨⟨"unit", hword .., by decide⟩, rfl⟩
  have hrearranged : Rearranged Settings.keys Restated [controllers, metrics] [metrics', systemId, controllers'] := by
    refine ⟨[controllers', metrics'], [systemId], .cons ?_ (.cons ?_ .nil), ?_, ?_⟩
    · exact .of_names (hmoved ..) (hword ..) (.listed (hhub _) (hhub _) _)
    · exact .of_names (hmoved ..) (hword ..) (.metrics hsection)
    · exact (List.perm_append_comm : ([metrics', systemId] ++ [controllers']).Perm _)
    · exact List.forall_mem_singleton.2 ⟨⟨"system_id", hword .., by decide⟩, rfl⟩
  have hread : ((store.load path (nodeHost terse)).1.toOption.map fun loaded ↦
      (loaded.settings.controllers, loaded.settings.metrics.port, loaded.settings.systemId)) =
        some (["hub"], 9, "node-1") := by
    decide +kernel
  cases hload : (store.load path (nodeHost terse)).1 with
  | error error =>
    rw [hload] at hread
    cases hread
  | ok loaded =>
    rw [hload] at hread
    obtain ⟨hcontrollers, hport, hname⟩ : loaded.settings.controllers = ["hub"] ∧ loaded.settings.metrics.port = 9 ∧
        loaded.settings.systemId = "node-1" := by simpa [Except.toOption] using hread
    have htext (text : String) : (nodeHost text).textAt 0 path = .ok text := by
      have hfile : (nodeHost text).tree.read path = .ok text.toUTF8 := rfl
      change (nodeHost text).tree.textOf path = .ok text
      rw [FileTree.textOf, hfile]
      simp only [Host.fromUTF8?_toUTF8]
    obtain ⟨hsame, -⟩ := known_entries_decide (htext terse) hterse (htext wordy) hwordy hrearranged rfl rfl hload
    exact ⟨loaded, rfl, hsame, hcontrollers, hport, hname⟩

end Store

end FleetAgent
