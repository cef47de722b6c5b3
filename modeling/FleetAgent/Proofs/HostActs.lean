import FleetAgent.FileTree.Replace
import Mathlib.Order.Defs.Unbundled

/-!
# What activities do to the host

An activity gives a value or an error together with the state behind it. `Leads R` says of an activity
that, however it goes, the state behind it stands in the relation `R` to the one before; for a relation
that is reflexive and transitive this passes from the single calls to whatever is put together of them.
-/

namespace FleetAgent

section

variable {ε σ α β : Type}

theorem bind_apply (act : ExceptT ε (StateM σ) α) (next : α → ExceptT ε (StateM σ) β) (state : σ) :
    (act >>= next) state = match act state with
      | (.ok value, after) => next value after
      | (.error error, after) => (.error error, after) := by
  simp only [bind, ExceptT.bind, ExceptT.mk, StateT.bind, ExceptT.bindCont]
  rcases act state with ⟨_ | _, after⟩ <;> rfl

@[simp]
theorem pure_apply (value : α) (state : σ) :
    (pure value : ExceptT ε (StateM σ) α) state = (.ok value, state) := rfl

@[simp]
theorem throw_apply (error : ε) (state : σ) :
    (throw error : ExceptT ε (StateM σ) α) state = (.error error, state) := rfl

@[simp]
theorem get_apply (state : σ) : (get : ExceptT ε (StateM σ) σ) state = (.ok state, state) := rfl

theorem bind_of_ok {act : ExceptT ε (StateM σ) α} {next : α → ExceptT ε (StateM σ) β}
    {state after : σ} {value : α} (h : act state = (.ok value, after)) :
    (act >>= next) state = next value after := by
  rw [bind_apply, h]

theorem bind_of_error {act : ExceptT ε (StateM σ) α} {next : α → ExceptT ε (StateM σ) β}
    {state after : σ} {error : ε} (h : act state = (.error error, after)) :
    (act >>= next) state = (.error error, after) := by
  rw [bind_apply, h]

/-- What has to go well for two activities in a row to go well. -/
theorem bind_eq_ok {act : ExceptT ε (StateM σ) α} {next : α → ExceptT ε (StateM σ) β}
    {state after : σ} {result : β} (h : (act >>= next) state = (.ok result, after)) :
    ∃ value middle, act state = (.ok value, middle) ∧ next value middle = (.ok result, after) := by
  rw [bind_apply] at h
  rcases hact : act state with ⟨_ | value, middle⟩
  · rw [hact] at h
    cases h
  · rw [hact] at h
    exact ⟨value, middle, rfl, h⟩

/-- Where two activities in a row end with an error, one of them does. -/
theorem bind_eq_error {act : ExceptT ε (StateM σ) α} {next : α → ExceptT ε (StateM σ) β}
    {state after : σ} {error : ε} (h : (act >>= next) state = (.error error, after)) :
    act state = (.error error, after) ∨
      ∃ value middle, act state = (.ok value, middle) ∧ next value middle = (.error error, after) := by
  rw [bind_apply] at h
  rcases hact : act state with ⟨fault | value, middle⟩
  · rw [hact] at h
    obtain ⟨hfault, rfl⟩ := Prod.mk.inj h
    rw [Except.error.inj hfault]
    exact .inl rfl
  · rw [hact] at h
    exact .inr ⟨value, middle, rfl, h⟩

end

/-- However the activity goes, the state behind it is in the relation to the one before. -/
def Leads {ε σ α : Type} (R : σ → σ → Prop) (act : ExceptT ε (StateM σ) α) : Prop :=
  ∀ state, R state (act state).2

namespace Leads

variable {ε σ α β : Type} {R : σ → σ → Prop}

/-- A relation that is transitive holds of two activities in a row when it holds of each of them. -/
theorem bind [IsTrans σ R] {act : ExceptT ε (StateM σ) α} {next : α → ExceptT ε (StateM σ) β}
    (hact : Leads R act) (hnext : ∀ value, Leads R (next value)) : Leads R (act >>= next) := by
  intro state
  rw [bind_apply]
  have hfirst := hact state
  rcases hrun : act state with ⟨_ | value, after⟩ <;> rw [hrun] at hfirst
  · exact hfirst
  · exact IsTrans.trans _ _ _ hfirst (hnext value after)

theorem of_unchanged [Std.Refl R] {act : ExceptT ε (StateM σ) α}
    (h : ∀ state, (act state).2 = state) : Leads R act := by
  intro state
  rw [h]
  exact Std.Refl.refl state

theorem pure [Std.Refl R] (value : α) : Leads R (Pure.pure value : ExceptT ε (StateM σ) α) :=
  of_unchanged fun _ ↦ rfl

theorem throw [Std.Refl R] (error : ε) :
    Leads R (MonadExcept.throw error : ExceptT ε (StateM σ) α) :=
  of_unchanged fun _ ↦ rfl

end Leads

/-- The activity gives a value wherever it begins. -/
def Succeeds {ε σ α : Type} (act : ExceptT ε (StateM σ) α) : Prop :=
  ∀ state, ∃ value after, act state = (.ok value, after)

theorem Succeeds.bind {ε σ α β : Type} {act : ExceptT ε (StateM σ) α}
    {next : α → ExceptT ε (StateM σ) β} (hact : Succeeds act) (hnext : ∀ value, Succeeds (next value)) :
    Succeeds (act >>= next) := by
  intro state
  obtain ⟨value, after, hvalue⟩ := hact state
  rw [bind_of_ok hvalue]
  exact hnext value after

theorem Succeeds.pure {ε σ α : Type} (value : α) :
    Succeeds (Pure.pure value : ExceptT ε (StateM σ) α) :=
  fun state ↦ ⟨value, state, rfl⟩

namespace Host

variable {ε ε' α : Type} {R : Host → Host → Prop}

theorem leads_look [Std.Refl R] (see : FileTree → α) : Leads R (look see : HostM ε α) :=
  .of_unchanged fun _ ↦ rfl

theorem leads_mapError (f : ε → ε') {act : HostM ε α} (h : Leads R act) :
    Leads R (mapError f act) := by
  intro host
  have hact := h host
  unfold mapError
  rcases hrun : act host with ⟨_ | value, after⟩ <;> rw [hrun] at hact <;> exact hact

theorem leads_outcome {act : HostM ε α} (h : Leads R act) :
    Leads R (outcome act : HostM ε' (Except ε α)) := h

theorem outcome_of_eq {act : HostM ε α} {host after : Host} {result : Except ε α} (h : act host = (result, after)) :
    (outcome act : HostM ε' (Except ε α)) host = (.ok result, after) := by
  unfold outcome
  rw [h]

/-- A call leads on if going on with the count and the trail does, with or without the new tree. -/
theorem leads_call {act : FileTree → Except FileError (α × FileTree)}
    (hfailed : ∀ host calls trail, R host { host with calls, trail })
    (hdone : ∀ (host : Host) calls trail value tree, act host.tree = .ok (value, tree) →
      R host { host with calls, trail, tree }) : Leads R (call act) := by
  intro host
  unfold call
  cases host.faults host.calls with
  | some fault => exact hfailed host _ _
  | none =>
    cases hact : act host.tree with
    | error fault => exact hfailed host _ _
    | ok result =>
      obtain ⟨value, tree⟩ := result
      exact hdone host _ _ value tree hact

/-- A property of making a directory with all that is missing on the way to it comes down to the steps: making
one directory, and looking whether there is one by now. -/
theorem makeDirsUnder_of_steps {P : HostM FileError Unit → Prop} (parents : List Path) (path : Path)
    (hdone : P (pure ())) (hthrow : ∀ fault, P (throw fault))
    (hlook : ∀ path next, (∀ isDir, P (next isDir)) → P (look (·.isDir path) >>= next))
    (hmake : ∀ made ∈ path :: parents, ∀ next : Except FileError Unit → HostM FileError Unit,
      (∀ result, P (next result)) → P (outcome (alter (·.makeDir made)) >>= next))
    (hthen : ∀ act next : HostM FileError Unit, P act → P next → P (act >>= fun _ ↦ next)) :
    P (makeDirsUnder parents path) := by
  have hcheck (path : Path) (fault : FileError) :
      P (do if ← look (·.isDir path) then return else throw fault) := by
    refine hlook path _ fun isDir ↦ ?_
    cases isDir with
    | false => exact hthrow fault
    | true => exact hdone
  induction parents generalizing path with
  | nil =>
    rw [makeDirsUnder]
    split
    · exact hdone
    refine hmake path (.head _) _ fun result ↦ ?_
    rcases result with fault | _
    · cases fault with
      | notFound => exact hthrow .notFound
      | _ => exact hcheck path _
    · exact hdone
  | cons parent above ih =>
    rw [makeDirsUnder]
    split
    · exact hdone
    refine hmake path (.head _) _ fun result ↦ ?_
    rcases result with fault | _
    · cases fault with
      | notFound =>
        refine hthen _ _ (ih parent fun made hmade ↦ hmake made (.tail _ hmade)) ?_
        refine hmake path (.head _) _ fun again ↦ ?_
        cases again with
        | ok _ => exact hdone
        | error fault => exact hcheck path fault
      | _ => exact hcheck path _
    · exact hdone

variable [Std.Refl R] [IsTrans Host R]

/-- Making a directory with all that is missing on the way to it comes down to making it and its
parents. -/
theorem leads_makeDirsUnder_of_mem (parents : List Path) (path : Path)
    (hmake : ∀ made ∈ path :: parents, Leads R (alter (·.makeDir made))) :
    Leads R (makeDirsUnder parents path) := by
  apply makeDirsUnder_of_steps
  case hdone => exact .pure ()
  case hthrow => exact fun fault ↦ .throw fault
  case hlook => exact fun path next hnext ↦ (leads_look _).bind hnext
  case hmake => exact fun made hmade next hnext ↦ (leads_outcome (hmake made hmade)).bind hnext
  case hthen => exact fun act next hact hnext ↦ hact.bind fun _ ↦ hnext

theorem leads_makeDirsUnder (hmake : ∀ path, Leads R (alter (·.makeDir path))) (parents : List Path)
    (path : Path) : Leads R (makeDirsUnder parents path) :=
  leads_makeDirsUnder_of_mem parents path fun made _ ↦ hmake made

/-- Of making directories only the call that makes one directory has to be looked at. -/
theorem leads_makeDirs (hmake : ∀ path, Leads R (alter (·.makeDir path))) (path : Path) :
    Leads R (makeDirs path) :=
  leads_makeDirsUnder hmake _ path

end Host

end FleetAgent
