import FleetAgent.Settings.Reading
import FleetAgent.Settings.Writing
import Mathlib.Data.List.Forall2

/-!
# Settings from their own sheet

A document shows a sheet when its tree is the tree of the sheet, and each text in it is a scalar that is
not taken for anything else. The settings that are read from a document which shows the sheet of some
settings are these settings without the identity.
-/

namespace FleetAgent

namespace Yaml

/-- The node is a scalar without a tag that reads as the given one. -/
inductive Scalar.ShownBy : Scalar → Node → Prop where
  | text {value : String} {mark : Mark} {style : Style}
      (hplain : style = .plain → Meaning.ofPlain value.toList = none) :
      ShownBy (.text value) (.scalar mark none style value.toList)
  | bool {value : Bool} {mark : Mark} {text : List Char} (hmeant : Meaning.bool? text = some value) :
      ShownBy (.bool value) (.scalar mark none .plain text)
  | number {value : Nat} {mark : Mark} {text : List Char} (hmeant : Meaning.natural? text = some value) :
      ShownBy (.number value) (.scalar mark none .plain text)

instance Scalar.decidableShownBy : (value : Scalar) → (node : Node) → Decidable (value.ShownBy node)
  | .text value, .scalar _ none style chars =>
    decidable_of_iff (value.toList = chars ∧ (style = .plain → (Meaning.ofPlain value.toList).isNone))
      ⟨fun ⟨htext, hplain⟩ ↦ htext ▸ .text fun h ↦ Option.isNone_iff_eq_none.1 (hplain h),
        fun (.text hplain) ↦ ⟨rfl, fun h ↦ Option.isNone_iff_eq_none.2 (hplain h)⟩⟩
  | .bool value, .scalar _ none style chars =>
    decidable_of_iff (Style.plain = style ∧ Meaning.bool? chars = some value)
      ⟨fun ⟨hstyle, hmeant⟩ ↦ hstyle ▸ .bool hmeant, fun (.bool hmeant) ↦ ⟨rfl, hmeant⟩⟩
  | .number value, .scalar _ none style chars =>
    decidable_of_iff (Style.plain = style ∧ Meaning.natural? chars = some value)
      ⟨fun ⟨hstyle, hmeant⟩ ↦ hstyle ▸ .number hmeant, fun (.number hmeant) ↦ ⟨rfl, hmeant⟩⟩
  | _, .scalar _ (some _) _ _ | _, .sequence .. | _, .mapping .. | _, .reference .. | _, .cut =>
    isFalse nofun

/-- The nodes are the names and the values of the entries, in order. -/
def EntriesShown (Shown : α → Node → Prop) : List (String × α) → List (Node × Node) → Prop :=
  List.Forall₂ fun entry pair ↦ (Scalar.text entry.1).ShownBy pair.1 ∧ Shown entry.2 pair.2

/-- The node is a collection without a tag, or a scalar, with the content of the entry. -/
inductive SheetEntry.ShownBy : SheetEntry → Node → Prop where
  | scalar {value : Scalar} {node : Node} (hshown : value.ShownBy node) : ShownBy (.scalar value) node
  | list {items : List String} {mark : Mark} {nodes : List Node}
      (hshown : List.Forall₂ (fun item node ↦ (Scalar.text item).ShownBy node) items nodes) :
      ShownBy (.list items) (.sequence mark none nodes)
  | block {entries : List (String × Scalar)} {mark : Mark} {pairs : List (Node × Node)}
      (hshown : EntriesShown Scalar.ShownBy entries pairs) :
      ShownBy (.block entries) (.mapping mark none pairs)

instance decidableEntriesShown {Shown : α → Node → Prop} [∀ value node, Decidable (Shown value node)]
    (entries : List (String × α)) (pairs : List (Node × Node)) :
    Decidable (EntriesShown Shown entries pairs) :=
  inferInstanceAs (Decidable (List.Forall₂ _ entries pairs))

instance SheetEntry.decidableShownBy : (entry : SheetEntry) → (node : Node) → Decidable (entry.ShownBy node)
  | .scalar value, node => decidable_of_iff (value.ShownBy node) ⟨.scalar, fun (.scalar h) ↦ h⟩
  | .list items, .sequence _ none nodes =>
    decidable_of_iff (List.Forall₂ (fun item node ↦ (Scalar.text item).ShownBy node) items nodes)
      ⟨.list, fun (.list h) ↦ h⟩
  | .block entries, .mapping _ none pairs =>
    decidable_of_iff (EntriesShown Scalar.ShownBy entries pairs) ⟨.block, fun (.block h) ↦ h⟩
  | .list _, .sequence _ (some _) _ | .list _, .scalar .. | .list _, .mapping .. | .list _, .reference ..
  | .list _, .cut | .block _, .mapping _ (some _) _ | .block _, .scalar .. | .block _, .sequence ..
  | .block _, .reference .. | .block _, .cut => isFalse nofun

/-- The document is the only one of its text, and holds the sheet. -/
inductive Sheet.ShownBy : Sheet → Document → Prop where
  | alone {sheet : Sheet} {mark : Mark} {pairs : List (Node × Node)} {anchored : List Anchored} {size : Nat}
      (hshown : EntriesShown SheetEntry.ShownBy sheet pairs) :
      ShownBy sheet ⟨.mapping mark none pairs, anchored, size, true⟩

instance Sheet.decidableShownBy (sheet : Sheet) : (document : Document) → Decidable (sheet.ShownBy document)
  | ⟨.mapping _ none pairs, _, _, true⟩ =>
    decidable_of_iff (EntriesShown SheetEntry.ShownBy sheet pairs) ⟨.alone, fun (.alone h) ↦ h⟩
  | ⟨.mapping _ (some _) _, _, _, _⟩ | ⟨.mapping _ none _, _, _, false⟩ | ⟨.scalar .., _, _, _⟩
  | ⟨.sequence .., _, _, _⟩ | ⟨.reference .., _, _, _⟩ | ⟨.cut, _, _, _⟩ => isFalse nofun

/-- Reading the text of the sheet gives the tree that was written. -/
def Sheet.ReadsBack (sheet : Sheet) : Prop := ∃ document ∈ Document.ofText sheet.text, sheet.ShownBy document

instance Sheet.decidableReadsBack (sheet : Sheet) : Decidable sheet.ReadsBack :=
  inferInstanceAs (Decidable (∃ document ∈ Document.ofText sheet.text, sheet.ShownBy document))

end Yaml

namespace Settings

open Yaml (Scalar Sheet SheetEntry Node Document Meaning EntriesShown)

namespace Field

variable {field : Field}

@[simp]
theorem placed_pure (field : Field) (value : α) : field.placed (pure value) = pure value := rfl

/-! ## Scalars -/

theorem follow_of_scalar {value : Scalar} (h : value.ShownBy field.node) : field.follow = pure field := by
  unfold follow
  generalize field.node = node at h
  cases h <;> rfl

theorem text_of_shown {value : String} (h : (Scalar.text value).ShownBy field.node)
    (expected : String := "a string") : field.text expected = pure value := by
  rw [text, follow_of_scalar h, pure_bind]
  generalize hnode : field.node = node at h
  cases h
  simp

theorem bool_of_shown {value : Bool} (h : (Scalar.bool value).ShownBy field.node) :
    field.bool = pure value := by
  rw [bool, follow_of_scalar h, pure_bind]
  generalize hnode : field.node = node at h
  cases h with
  | bool hmeant => simp [standsFor, hmeant]

theorem natural_of_shown {value bound : Nat} {kind : String} (h : (Scalar.number value).ShownBy field.node)
    (hbound : value < bound) : field.natural bound kind = pure value := by
  rw [natural, follow_of_scalar h, pure_bind]
  generalize hnode : field.node = node at h
  cases h with
  | number hmeant => simp [standsFor, hmeant, hbound]

theorem word16_of_shown {value : UInt16} (h : (Scalar.number value.toNat).ShownBy field.node) :
    field.word16 = pure value := by
  rw [word16, natural_of_shown h value.toNat_lt, pure_bind]
  simp

theorem word64_of_shown {value : UInt64} (h : (Scalar.number value.toNat).ShownBy field.node) :
    field.word64 = pure value := by
  rw [word64, natural_of_shown h value.toNat_lt, pure_bind]
  simp

/-- A plain text is neither empty nor a word for nothing. -/
theorem not_null_of_ofPlain {text : List Char} (h : Meaning.ofPlain text = none) :
    (text.isEmpty || Meaning.isNull text) = false := by
  unfold Meaning.ofPlain at h
  split at h
  · cases h
  · next hshown => simpa using hshown

/-- A value that may be missing is read back when it is there. -/
theorem optional_of_text {value : String} (h : (Scalar.text value).ShownBy field.node) :
    field.optional (fun field ↦ field.text) = pure (some value) := by
  have hread := text_of_shown h
  rw [optional, follow_of_scalar h, pure_bind]
  generalize hnode : field.node = node at h
  cases h with
  | @text _ mark style hplain =>
    cases style with
    | plain => simp [not_null_of_ofPlain (hplain rfl), hread]
    | _ => simp [hread]

/-! ## Lists -/

theorem content_of_text {value : String} (h : (Scalar.text value).ShownBy field.node) (depth : Nat) :
    content depth field = pure (.text value) := by
  rw [content, follow_of_scalar h, pure_bind]
  generalize hnode : field.node = node at h
  cases h with
  | @text _ mark style hplain =>
    have hvalue : scalarValue none style value.toList = .ok (.text value.toList) := by
      by_cases hstyle : style = .plain
      · simp [scalarValue, hplain hstyle]
      · simp [scalarValue, hstyle]
    simp [isLocal, hvalue]

theorem contents_of_shown {items : List String} {nodes : List Node}
    (h : List.Forall₂ (fun item node ↦ (Scalar.text item).ShownBy node) items nodes) (field : Field)
    (depth n : Nat) :
    (nodes.zipIdx n).mapM (fun (item, n) ↦ content depth (field.child (.index n) depth item)) =
      pure (items.map .text) := by
  induction h generalizing n with
  | nil => rfl
  | @cons item node _ _ hitem _ ih =>
    have hfirst : content depth (field.child (.index n) depth node) = pure (.text item) :=
      content_of_text hitem depth
    rw [List.zipIdx_cons, List.mapM_cons, ih]
    simp only [hfirst, pure_bind, List.map_cons]

theorem texts?_list (items : List String) : (Content.list (items.map .text)).texts? = some items := by
  rw [Content.texts?]
  induction items with
  | nil => rfl
  | cons item rest ih =>
    rw [List.map_cons, List.mapM_cons, ih]
    rfl

/-- A list of texts is read back as a list. -/
theorem oneOrMany_of_shown {items : List String} (h : (SheetEntry.list items).ShownBy field.node)
    (hdepth : field.depth ≠ 0) : field.oneOrMany = pure items := by
  obtain ⟨depth, hdepth⟩ := Nat.exists_eq_succ_of_ne_zero hdepth
  generalize hnode : field.node = node at h
  cases h with
  | list hshown =>
    have hfollow : field.follow = pure field := by
      rw [follow, hnode]
    have hcontent : content field.depth field = pure (.list (items.map .text)) := by
      rw [hdepth, content, hfollow, pure_bind, hnode]
      simp only [isLocal, Option.any_none, Bool.false_eq_true, if_false, pure_bind]
      rw [contents_of_shown hshown, pure_bind]
    rw [oneOrMany, optional, hfollow, pure_bind, hnode]
    simp only [pure_bind, hcontent, texts?_list]

/-! ## Sections -/

/-- Reading the entries one after the other leads from the one value to the other. -/
inductive Fills (Shown : β → Node → Prop) (read : String → Field → α → ReadM α) (depth : Nat) :
    List (String × β) → α → α → Prop where
  | nil (value : α) : Fills Shown read depth [] value value
  | cons {name : String} {entry : β} {rest : List (String × β)} {value middle after : α}
      (hread : ∀ field : Field, Shown entry field.node → field.depth = depth →
        read name field value = pure middle)
      (hrest : Fills Shown read depth rest middle after) :
      Fills Shown read depth ((name, entry) :: rest) value after

namespace Fills

variable {Shown : β → Node → Prop} {read : String → Field → α → ReadM α} {depth : Nat}
  {value middle after : α}

theorem append {entries others : List (String × β)} (h : Fills Shown read depth entries value middle)
    (h' : Fills Shown read depth others middle after) :
    Fills Shown read depth (entries ++ others) value after := by
  induction h with
  | nil => exact h'
  | cons hread _ ih => exact .cons hread (ih h')

variable {get : Field → ReadM γ}

/-- An entry whose value is put into what has been read so far. -/
theorem single (name : String) (entry : β) {given : γ} (set : γ → α → α)
    (hentry : ∀ field value, read name field value = do return set (← get field) value)
    (hget : ∀ field : Field, Shown entry field.node → field.depth = depth → get field = pure given) :
    Fills Shown read depth [(name, entry)] value (set given value) := by
  refine .cons (fun field hshown hdepth ↦ ?_) (.nil _)
  rw [hentry, hget field hshown hdepth, pure_bind]

/-- An entry that is left out is one that would change nothing. -/
theorem unlessDefault [DecidableEq γ] (name : String) (default : γ) (write : γ → β) (given : γ)
    (set : γ → α → α) (hdefault : set default value = value)
    (hentry : ∀ field value, read name field value = do return set (← get field) value)
    (hget : ∀ field : Field, Shown (write given) field.node → field.depth = depth →
      get field = pure given) :
    Fills Shown read depth (Settings.unlessDefault name default write given) value (set given value) := by
  unfold Settings.unlessDefault
  split
  · next hgiven =>
    rw [hgiven, hdefault]
    exact .nil value
  · exact single name (write given) set hentry hget

end Fills

/-- Reading the shown entries one by one fills in their values. -/
theorem entriesInto_of_fills {Shown : β → Node → Prop} {read : String → Field → α → ReadM α}
    {depth : Nat} {known : List String} {entries : List (String × β)} {pairs : List (Node × Node)}
    {value after : α} (hfills : Fills Shown read depth entries value after)
    (hshown : EntriesShown Shown entries pairs) (seen : List String)
    (hknown : ∀ name ∈ entries.map Prod.fst, name ∈ known)
    (hfresh : (entries.map Prod.fst).Nodup) (hunseen : (entries.map Prod.fst).Disjoint seen) :
    field.entriesInto depth known read seen value pairs = pure after := by
  induction hfills generalizing pairs seen with
  | nil value =>
    cases hshown
    rfl
  | @cons name entry rest value middle after hread _ ih =>
    cases hshown with
    | @cons _ pair _ others hpair hothers =>
      obtain ⟨hname, hentry⟩ := hpair
      have hnamed : text { field with node := pair.1 } "field identifier" = pure name :=
        text_of_shown hname _
      rw [List.map_cons] at hknown hfresh hunseen
      rw [List.nodup_cons] at hfresh
      rw [List.disjoint_cons_left] at hunseen
      rw [entriesInto, hnamed, pure_bind]
      have hin : known.contains name = true := List.contains_iff_mem.2 (hknown name List.mem_cons_self)
      have hout : seen.contains name = false := by
        simpa using hunseen.1
      simp only [hin, hout, Bool.not_true, Bool.false_eq_true, if_false]
      rw [hread _ hentry rfl]
      refine ih hothers (name :: seen) (fun name hname ↦ hknown name (List.mem_cons_of_mem _ hname))
        hfresh.2 ?_
      rw [List.disjoint_cons_right]
      exact ⟨hfresh.1, hunseen.2⟩

/-- A mapping that shows the entries is read as the filled record. -/
theorem record_of_fills {read : String → Field → α → ReadM α} {kind : String} {known : List String}
    {entries : List (String × β)} {Shown : β → Node → Prop} {depth : Nat} {mark : Yaml.Mark}
    {pairs : List (Node × Node)} {blank after : α} (hfills : Fills Shown read depth entries blank after)
    (hnode : field.node = .mapping mark none pairs) (hshown : EntriesShown Shown entries pairs)
    (hdepth : field.depth = depth + 1) (hnames : (entries.map Prod.fst).Sublist known)
    (hknown : known.Nodup) : field.record kind known blank read = pure after := by
  have hfollow : field.follow = pure field := by
    rw [follow, hnode]
  rw [record, hfollow, pure_bind, hnode]
  simp only [hdepth]
  rw [entriesInto_of_fills hfills hshown [] (fun _ h ↦ hnames.subset h) (hknown.sublist hnames)
    (List.disjoint_nil_right _), placed_pure]

end Field

/-! ## The sections and the whole -/

theorem names_unlessDefault [DecidableEq α] (name : String) (default : α) (write : α → β) (value : α) :
    ((unlessDefault name default write value).map Prod.fst).Sublist [name] := by
  unfold unlessDefault
  split
  · exact List.nil_sublist _
  · exact List.Sublist.refl _

theorem names_metricsBlock (metrics : Metrics) :
    ((metricsBlock metrics).map Prod.fst).Sublist metricsKeys := by
  unfold metricsBlock textUnlessEmpty
  simp only [List.map_append]
  exact ((((names_unlessDefault ..).append (names_unlessDefault ..)).append
    (names_unlessDefault ..)).append (names_unlessDefault ..)).append (names_unlessDefault ..)

theorem names_tlsBlock (tls : Tls) : ((tlsBlock tls).map Prod.fst).Sublist tlsKeys := by
  unfold tlsBlock textUnlessEmpty
  simp only [List.map_append]
  exact (((names_unlessDefault ..).append (names_unlessDefault ..)).append
    (names_unlessDefault ..)).append (names_unlessDefault ..)

/-- The entries of a sheet have the known names, each of them at most once. -/
theorem names_toSheet (settings : Settings) : (settings.toSheet.map Prod.fst).Sublist keys := by
  have hsupervisor : ((settings.supervisor.toList.map fun address ↦
      ("supervisord", SheetEntry.scalar (.text address))).map Prod.fst).Sublist ["supervisord"] := by
    cases settings.supervisor with
    | none => exact List.nil_sublist _
    | some address => exact List.Sublist.refl _
  unfold toSheet
  simp only [List.map_append]
  exact (((((((((List.Sublist.refl ["controllers"]).append (names_unlessDefault ..)).append
    (names_unlessDefault ..)).append (names_unlessDefault ..)).append (names_unlessDefault ..)).append
    (names_unlessDefault ..)).append (names_unlessDefault ..)).append hsupervisor).append
    (List.Sublist.refl ["proxy", "ntp_bind_addr", "ntp_refresh_rate"]))

open FleetAgent.Settings.Field

theorem fills_metricsBlock (metrics : Metrics) (depth : Nat) :
    Fills Scalar.ShownBy metricsEntry depth (metricsBlock metrics) {} metrics := by
  have htext (name value : String) (set : String → Metrics → Metrics) {metrics : Metrics}
      (hdefault : set "" metrics = metrics)
      (hentry : ∀ field metrics, metricsEntry name field metrics = do return set (← field.text) metrics) :
      Fills Scalar.ShownBy metricsEntry depth (textUnlessEmpty name value) metrics (set value metrics) :=
    .unlessDefault name "" Scalar.text value set hdefault hentry fun _ h _ ↦ text_of_shown h
  have hblank : Fills Scalar.ShownBy metricsEntry depth [] {} {} := .nil _
  have hbind := hblank.append <|
    htext "bind" metrics.bind (fun bind metrics ↦ { metrics with bind }) rfl fun _ _ ↦ rfl
  have hport := hbind.append <|
    .unlessDefault "port" 0 (fun port ↦ .number port.toNat) metrics.port
      (fun port metrics ↦ { metrics with port }) rfl (fun _ _ ↦ rfl) fun _ h _ ↦ word16_of_shown h
  have hcaCert := hport.append <|
    htext "ca_cert" metrics.caCert (fun caCert metrics ↦ { metrics with caCert }) rfl fun _ _ ↦ rfl
  have hcert := hcaCert.append <|
    htext "cert" metrics.cert (fun cert metrics ↦ { metrics with cert }) rfl fun _ _ ↦ rfl
  exact hcert.append <|
    htext "priv_key" metrics.key (fun key metrics ↦ { metrics with key }) rfl fun _ _ ↦ rfl

theorem fills_tlsBlock (tls : Tls) (depth : Nat) :
    Fills Scalar.ShownBy tlsEntry depth (tlsBlock tls) {} tls := by
  have htext (name value : String) (set : String → Tls → Tls) {tls : Tls} (hdefault : set "" tls = tls)
      (hentry : ∀ field tls, tlsEntry name field tls = do return set (← field.text) tls) :
      Fills Scalar.ShownBy tlsEntry depth (textUnlessEmpty name value) tls (set value tls) :=
    .unlessDefault name "" Scalar.text value set hdefault hentry fun _ h _ ↦ text_of_shown h
  have hblank : Fills Scalar.ShownBy tlsEntry depth [] {} {} := .nil _
  have hcaCert := hblank.append <|
    htext "ca_cert" tls.caCert (fun caCert tls ↦ { tls with caCert }) rfl fun _ _ ↦ rfl
  have hcert := hcaCert.append <|
    htext "cert" tls.cert (fun cert tls ↦ { tls with cert }) rfl fun _ _ ↦ rfl
  have hkey := hcert.append <|
    htext "priv_key" tls.key (fun key tls ↦ { tls with key }) rfl fun _ _ ↦ rfl
  have hskipCaCheck := hkey.append <|
    .unlessDefault "insecure_ca" false Scalar.bool tls.skipCaCheck
      (fun skipCaCheck tls ↦ { tls with skipCaCheck }) rfl (fun _ _ ↦ rfl) fun _ h _ ↦ bool_of_shown h
  exact hskipCaCheck

/-- What the settings file says of the settings. -/
def impersonal (settings : Settings) : Settings :=
  { settings with base := ⟨[]⟩, systemId := "", secret := "" }

theorem metrics_of_shown {metrics : Metrics} {field : Field}
    (h : (SheetEntry.block (metricsBlock metrics)).ShownBy field.node) (hdepth : field.depth ≠ 0) :
    field.record "MetricsConfig" metricsKeys {} metricsEntry = pure metrics := by
  obtain ⟨depth, hdepth⟩ := Nat.exists_eq_succ_of_ne_zero hdepth
  generalize hnode : field.node = node at h
  cases h with
  | block hshown =>
    exact record_of_fills (fills_metricsBlock metrics depth) hnode hshown hdepth
      (names_metricsBlock metrics) (by decide)

theorem tls_of_shown {tls : Tls} {field : Field}
    (h : (SheetEntry.block (tlsBlock tls)).ShownBy field.node) (hdepth : field.depth ≠ 0) :
    field.record "TlsConfig" tlsKeys {} tlsEntry = pure tls := by
  obtain ⟨depth, hdepth⟩ := Nat.exists_eq_succ_of_ne_zero hdepth
  generalize hnode : field.node = node at h
  cases h with
  | block hshown =>
    exact record_of_fills (fills_tlsBlock tls depth) hnode hshown hdepth (names_tlsBlock tls) (by decide)

/-- The entries of the settings fill in all of them but the identity. -/
theorem fills_toSheet (settings : Settings) {depth : Nat} (hdepth : depth ≠ 0) :
    Fills SheetEntry.ShownBy entry depth settings.toSheet {} settings.impersonal := by
  have hscalar {value : Scalar} {node : Node} (h : (SheetEntry.scalar value).ShownBy node) :
      value.ShownBy node := by
    cases h with
    | scalar h => exact h
  have hblank : Fills SheetEntry.ShownBy entry depth [] {} {} := .nil _
  have hcontrollers := hblank.append <|
    .single "controllers" (SheetEntry.list settings.controllers)
      (fun controllers settings ↦ { settings with controllers }) (fun _ _ ↦ rfl)
      fun field h hfield ↦ oneOrMany_of_shown h (hfield ▸ hdepth)
  have htftpRoot := hcontrollers.append <|
    .unlessDefault "tftp_root" "" (SheetEntry.scalar ∘ .text) settings.tftpRoot
      (fun tftpRoot settings ↦ { settings with tftpRoot }) rfl (fun _ _ ↦ rfl)
      fun _ h _ ↦ text_of_shown (hscalar h)
  have htftpPort := htftpRoot.append <|
    .unlessDefault "tftp_port" 0 (fun port ↦ .scalar (.number port.toNat)) settings.tftpPort
      (fun tftpPort settings ↦ { settings with tftpPort }) rfl (fun _ _ ↦ rfl)
      fun _ h _ ↦ word16_of_shown (hscalar h)
  have hclusterId := htftpPort.append <|
    .unlessDefault "cluster_id" "" (SheetEntry.scalar ∘ .text) settings.clusterId
      (fun clusterId settings ↦ { settings with clusterId }) rfl (fun _ _ ↦ rfl)
      fun _ h _ ↦ text_of_shown (hscalar h)
  have hdebug := hclusterId.append <|
    .unlessDefault "debug" false (SheetEntry.scalar ∘ .bool) settings.debug
      (fun debug settings ↦ { settings with debug }) rfl (fun _ _ ↦ rfl)
      fun _ h _ ↦ bool_of_shown (hscalar h)
  have hmetrics := hdebug.append <|
    .unlessDefault "metrics" {} (SheetEntry.block ∘ metricsBlock) settings.metrics
      (fun metrics settings ↦ { settings with metrics }) rfl (fun _ _ ↦ rfl)
      fun field h hfield ↦ metrics_of_shown h (hfield ▸ hdepth)
  have htls := hmetrics.append <|
    .unlessDefault "rpc" {} (SheetEntry.block ∘ tlsBlock) settings.tls
      (fun tls settings ↦ { settings with tls }) rfl (fun _ _ ↦ rfl)
      fun field h hfield ↦ tls_of_shown h (hfield ▸ hdepth)
  have hsupervisor : Fills SheetEntry.ShownBy entry depth
      (settings.supervisor.toList.map fun address ↦ ("supervisord", .scalar (.text address)))
      { settings.impersonal with
        supervisor := none, proxy := false, ntpBindAddr := "", ntpRefreshRate := 0 }
      { settings.impersonal with proxy := false, ntpBindAddr := "", ntpRefreshRate := 0 } := by
    unfold impersonal
    cases settings.supervisor with
    | none => exact .nil _
    | some address =>
      exact .single "supervisord" (SheetEntry.scalar (.text address))
        (fun supervisor (settings : Settings) ↦ { settings with supervisor }) (fun _ _ ↦ rfl)
        fun _ h _ ↦ optional_of_text (hscalar h)
  have hproxy := (htls.append hsupervisor).append <|
    .single "proxy" (SheetEntry.scalar (.bool settings.proxy))
      (fun proxy settings ↦ { settings with proxy }) (fun _ _ ↦ rfl) fun _ h _ ↦ bool_of_shown (hscalar h)
  have hntpBindAddr := hproxy.append <|
    .single "ntp_bind_addr" (SheetEntry.scalar (.text settings.ntpBindAddr))
      (fun ntpBindAddr settings ↦ { settings with ntpBindAddr }) (fun _ _ ↦ rfl)
      fun _ h _ ↦ text_of_shown (hscalar h)
  have hntpRefreshRate := hntpBindAddr.append <|
    .single "ntp_refresh_rate" (SheetEntry.scalar (.number settings.ntpRefreshRate.toNat))
      (fun ntpRefreshRate settings ↦ { settings with ntpRefreshRate }) (fun _ _ ↦ rfl)
      fun _ h _ ↦ word64_of_shown (hscalar h)
  rw [List.append_assoc, List.append_assoc] at hntpRefreshRate
  exact hntpRefreshRate

/-- Settings that the document of their own sheet holds. -/
theorem ofDocument_of_shown {settings : Settings} {document : Document}
    (h : settings.toSheet.ShownBy document) : ofDocument document = .ok settings.impersonal := by
  cases h with
  | @alone mark pairs anchored size hshown =>
    let document : Document := ⟨.mapping mark none pairs, anchored, size, true⟩
    have hread : Field.record { document, node := document.root } "RackConfig" keys {} entry =
        pure settings.impersonal :=
      record_of_fills (fills_toSheet settings (by decide)) rfl hshown rfl (names_toSheet settings)
        (by decide)
    rw [ofDocument, hread]
    rfl

/-- Reading settings from the text that they were written as. -/
theorem ofText_toText {settings : Settings} (h : settings.toSheet.ReadsBack) :
    ofText settings.toText = .ok settings.impersonal := by
  obtain ⟨document, hdocument, hshown⟩ := h
  rw [ofText, toText, hdocument]
  exact ofDocument_of_shown hshown

end Settings

end FleetAgent
