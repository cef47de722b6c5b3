import FleetAgent.Control.Pool
import Mathlib.Data.List.Induction
import Mathlib.Data.List.Nodup

/-!
# The queues of an agent

An agent takes its tasks from its own queue, from the one that all agents share, and from extra ones. The
queues are gathered one after the other, and a queue that is there already is passed over: what is gathered
behind the first queues is therefore each new one once, in the order in which the new ones first occur.
-/

namespace FleetAgent.Control

theorem addQueue_of_mem {queues : List String} {queue : String} (h : queue ∈ queues) :
    addQueue queues queue = queues := by
  simp [addQueue, h]

theorem addQueue_of_not_mem {queues : List String} {queue : String} (h : queue ∉ queues) :
    addQueue queues queue = queues ++ [queue] := by
  simp [addQueue, h]

/-- Queues that are there already add nothing. -/
theorem foldl_addQueue_of_subset {queues extra : List String} (h : extra ⊆ queues) :
    extra.foldl addQueue queues = queues := by
  induction extra with
  | nil => rfl
  | cons queue extra ih =>
    obtain ⟨hqueue, hextra⟩ := List.cons_subset.1 h
    rw [List.foldl_cons, addQueue_of_mem hqueue]
    exact ih hextra

/-- Queues that are all new and all different are added as they are. -/
theorem foldl_addQueue_of_nodup {queues extra : List String} (h : (queues ++ extra).Nodup) :
    extra.foldl addQueue queues = queues ++ extra := by
  induction extra generalizing queues with
  | nil => exact (List.append_nil queues).symm
  | cons queue extra ih =>
    rw [List.append_cons] at h ⊢
    have hqueue : queue ∉ queues := by
      have hdistinct := (List.nodup_append.1 h.of_append_left).2.2
      exact fun hmem ↦ hdistinct queue hmem queue (.head _) rfl
    rw [List.foldl_cons, addQueue_of_not_mem hqueue]
    exact ih h

/-- What is gathered behind the first queues: the extra queues that are not among them, each of them once and
in the order of their first occurrence. -/
structure Gathered (first extra rest : List String) : Prop where
  nodup : (first ++ rest).Nodup
  mem_iff : ∀ queue, queue ∈ rest ↔ queue ∈ extra ∧ queue ∉ first
  order : rest.Pairwise fun earlier later ↦ extra.idxOf earlier < extra.idxOf later

variable {first extra rest : List String}

theorem gathered_nil (h : first.Nodup) : Gathered first [] [] where
  nodup := by rwa [List.append_nil]
  mem_iff := by simp
  order := .nil

/-- A further extra queue does not move the first occurrence of those before it. -/
theorem Gathered.order_concat (h : Gathered first extra rest) (queue : String) :
    rest.Pairwise fun earlier later ↦ (extra ++ [queue]).idxOf earlier < (extra ++ [queue]).idxOf later := by
  refine h.order.imp_of_mem fun hearlier hlater hless ↦ ?_
  rw [List.idxOf_append_of_mem ((h.mem_iff _).1 hearlier).1, List.idxOf_append_of_mem ((h.mem_iff _).1 hlater).1]
  exact hless

/-- A queue that is there already is not gathered again. -/
theorem Gathered.old (h : Gathered first extra rest) {queue : String} (hqueue : queue ∈ first ++ rest) :
    Gathered first (extra ++ [queue]) rest where
  nodup := h.nodup
  mem_iff other := by
    have hother := h.mem_iff other
    have hold := h.mem_iff queue
    grind
  order := h.order_concat queue

/-- A queue that is not there yet is gathered behind all others. -/
theorem Gathered.new (h : Gathered first extra rest) {queue : String} (hqueue : queue ∉ first ++ rest) :
    Gathered first (extra ++ [queue]) (rest ++ [queue]) where
  nodup := by
    rw [← List.append_assoc, ← List.concat_eq_append]
    exact h.nodup.concat hqueue
  mem_iff other := by
    have hother := h.mem_iff other
    grind
  order := by
    have hextra : queue ∉ extra := by
      have hnew := h.mem_iff queue
      grind
    refine List.pairwise_append.2 ⟨h.order_concat queue, List.pairwise_singleton _ _, ?_⟩
    rintro earlier hearlier _ (_ | ⟨_, ⟨⟩⟩)
    have hmem : earlier ∈ extra := ((h.mem_iff earlier).1 hearlier).1
    calc
      (extra ++ [queue]).idxOf earlier = extra.idxOf earlier := List.idxOf_append_of_mem hmem
      _ < extra.length := List.idxOf_lt_length_iff.2 hmem
      _ = (extra ++ [queue]).idxOf queue := by simp [List.idxOf_append_of_notMem hextra]

/-- Adding the extra queues one by one gathers each of them once. -/
theorem exists_gathered (h : first.Nodup) (extra : List String) :
    ∃ rest, extra.foldl addQueue first = first ++ rest ∧ Gathered first extra rest := by
  induction extra using List.reverseRecOn with
  | nil => exact ⟨[], (List.append_nil first).symm, gathered_nil h⟩
  | append_singleton extra queue ih =>
    obtain ⟨rest, hrest, hgathered⟩ := ih
    rw [List.foldl_append, hrest, List.foldl_cons, List.foldl_nil]
    by_cases hqueue : queue ∈ first ++ rest
    · exact ⟨rest, addQueue_of_mem hqueue, hgathered.old hqueue⟩
    · refine ⟨rest ++ [queue], ?_, hgathered.new hqueue⟩
      rw [addQueue_of_not_mem hqueue, List.append_assoc]

/-- Whatever an agent is called, its own queue is longer than the one of all agents. -/
theorem ownQueue_ne_commonQueue (systemId : String) : ownQueue systemId ≠ commonQueue := by
  intro heq
  have hlength := congrArg String.length heq
  simp only [ownQueue, String.length_append] at hlength
  have hat : "@".length = 1 := by decide
  omega

theorem nodup_builtIn (systemId : String) : [ownQueue systemId, commonQueue].Nodup := by
  simpa using ownQueue_ne_commonQueue systemId

/-- The queues of a registration are the agent's own one, the common one and then the other extra ones, each
of them once and these in the order of their first occurrence. With them as the extra queues another
registration has the same ones. -/
theorem queues_once (registrar : Registrar) (identity : Identity) (id : UInt64) :
    let own := identity.systemId ++ "@agent:main"
    let extra := registrar.extraQueues
    let queues := (registrar.registration identity id).queues
    queues.Nodup ∧
      (∃ rest, queues = own :: "agent:main" :: rest ∧
        (∀ queue, queue ∈ rest ↔ queue ∈ extra ∧ queue ≠ own ∧ queue ≠ "agent:main") ∧
        rest.Pairwise fun earlier later ↦ extra.idxOf earlier < extra.idxOf later) ∧
      (∀ queue, queue ∈ queues ↔ queue = own ∨ queue = "agent:main" ∨ queue ∈ extra) ∧
      ∀ nextId, ({ registrar with extraQueues := queues }.registration identity nextId).queues = queues := by
  intro own extra queues
  have hown : ownQueue identity.systemId = own := String.append_assoc
  obtain ⟨rest, hqueues, hgathered⟩ := exists_gathered (nodup_builtIn identity.systemId) extra
  change queues = _ at hqueues
  have hrest (queue : String) : queue ∈ rest ↔ queue ∈ extra ∧ queue ≠ own ∧ queue ≠ "agent:main" := by
    simpa [hown, commonQueue] using hgathered.mem_iff queue
  rw [hqueues]
  refine ⟨hgathered.nodup, ⟨rest, by rw [hown]; rfl, hrest, hgathered.order⟩, fun queue ↦ ?_, fun _ ↦ ?_⟩
  · have hqueue := hrest queue
    simp only [List.cons_append, List.nil_append, List.mem_cons, hown, commonQueue]
    grind
  · change queuesOf identity.systemId _ = _
    rw [queuesOf, List.foldl_append, foldl_addQueue_of_subset (List.Subset.refl _)]
    exact foldl_addQueue_of_nodup hgathered.nodup

/-- An extra queue may be spelled like one that is there anyway, and may be asked for twice. -/
example : queuesOf "n" ["power", "n@agent:main", "cooling", "agent:main", "power"] =
    ["n@agent:main", "agent:main", "power", "cooling"] := by
  decide

end FleetAgent.Control
