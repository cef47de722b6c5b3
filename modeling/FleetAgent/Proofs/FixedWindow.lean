import FleetAgent.Proofs.ReplyLedger

/-!
# The window does not move

A wait for an acknowledgement receives again for every reply that belongs to another registration. `Receives`
counts how often, one rule for each way in which a receive can end. There are never more receives than
replies in the queue and one more, and all of them share the moment at which the window closes: no reply that
is passed over moves it, and one that decides may come as late as that.
-/

namespace FleetAgent.Control

/-- The wait comes to the given end after so many receives. -/
inductive Receives (link : Link) (window : Window) : Moment → List Reply → Nat → Awaited → Prop where
  | nothing {now : Moment} : Receives link window now [] 1 { ended := window.expire now, rest := [] }
  | tooLate {now : Moment} {reply : Reply} {rest : List Reply}
      (hreached : ¬ window.reaches now (max now reply.moment) = true) :
      Receives link window now (reply :: rest) 1 { ended := window.expire now, rest := reply :: rest }
  | decided {now : Moment} {reply : Reply} {rest : List Reply} {result : Except PoolError Unit}
      (hreached : window.reaches now (max now reply.moment) = true)
      (hmeant : meant link window.id reply = .decides result) :
      Receives link window now (reply :: rest) 1 { ended := .done (max now reply.moment) result, rest }
  | again {now : Moment} {reply : Reply} {rest : List Reply} {other : UInt64} {count : Nat} {later : Awaited}
      (hreached : window.reaches now (max now reply.moment) = true)
      (hmeant : meant link window.id reply = .other other)
      (hlater : Receives link window (max now reply.moment) rest count later) :
      Receives link window now (reply :: rest) (count + 1)
        { later with events := stale window.id other :: later.events }

/-- Every wait comes to its end by a number of receives. -/
theorem exists_receives (link : Link) (window : Window) (now : Moment) (replies : List Reply) :
    ∃ count, Receives link window now replies count (await link window now replies) := by
  fun_induction await link window now replies with
  | case1 now => exact ⟨1, .nothing⟩
  | case2 now reply rest received hreached result hmeant => exact ⟨1, .decided hreached hmeant⟩
  | case3 now reply rest received hreached other hmeant later ih =>
    obtain ⟨count, hlater⟩ := ih
    exact ⟨count + 1, .again hreached hmeant hlater⟩
  | case4 now reply rest received hreached => exact ⟨1, .tooLate hreached⟩

variable {link : Link} {window : Window} {now : Moment} {replies : List Reply} {count : Nat} {awaited : Awaited}

/-- Every receive but the last one has taken a reply from the queue. -/
theorem Receives.count_le (h : Receives link window now replies count awaited) :
    count ≤ replies.length + 1 := by
  induction h with
  | nothing => exact le_rfl
  | tooLate | decided => exact Nat.le_add_left 1 _
  | again _ _ _ ih => exact Nat.succ_le_succ ih

/-- The wait ends by the moment at which the window closes, unless it is given up before. -/
structure Ended.By (ended : Ended PoolError α) (closes deadline : Moment) : Prop where
  unbroken : ended ≠ .broken
  done : ∀ moment result, ended = .done moment result → moment ≤ closes
  cut : ended = .cut → deadline < closes

theorem Window.expire_by {window : Window} {now : Moment} (hnow : now ≤ window.closes) :
    (window.expire now).By window.closes window.deadline where
  unbroken := by
    unfold expire
    split <;> exact nofun
  done := by
    intro moment result h
    obtain ⟨-, rfl, -⟩ := expire_eq_done_iff.1 h
    exact max_le hnow le_rfl
  cut := by
    intro h
    have hlater := expire_eq_cut_iff.1 h
    rw [max_eq_right hnow] at hlater
    exact (le_max_right now _).trans_lt hlater

/-- However many replies are passed over, the wait does not go on behind the end of the window. -/
theorem Receives.by_closes (h : Receives link window now replies count awaited) (hnow : now ≤ window.closes) :
    awaited.ended.By window.closes window.deadline := by
  induction h with
  | nothing | tooLate => exact Window.expire_by hnow
  | decided hreached =>
    refine ⟨nofun, ?_, nofun⟩
    rintro moment result ⟨⟩
    exact Window.le_closes_of_reaches hnow hreached
  | again hreached _ _ ih => exact ih (Window.le_closes_of_reaches hnow hreached)

theorem Ended.By.giving {ended : Ended PoolError Unit} {closes deadline : Moment}
    (h : ended.By closes deadline) (pool : Pool) : (ended.giving pool).By closes deadline where
  unbroken := by
    cases ended with
    | broken => exact absurd rfl h.unbroken
    | done | cut => exact nofun
  done := by
    intro moment result hended
    obtain ⟨verdict, hended, -⟩ := Ended.giving_eq_done_iff.1 hended
    exact h.done moment verdict hended
  cut := fun hcut ↦ h.cut (Ended.giving_eq_cut_iff.1 hcut)

/-! ## Replies that come together -/

/-- Replies that are there by a moment have all been received by then. -/
theorem arrival_le {limit : Moment} (hnow : now ≤ limit) (hreplies : ∀ reply ∈ replies, reply.moment ≤ limit) :
    arrival now replies ≤ limit := by
  induction replies generalizing now with
  | nil => exact hnow
  | cons reply rest ih =>
    obtain ⟨hreply, hrest⟩ := List.forall_mem_cons.1 hreplies
    exact ih (max_le hnow hreply) hrest

/-- Behind replies that are there by then, a reply is received at its own moment. -/
theorem arrival_concat {limit : Moment} (hnow : now ≤ limit) (hreplies : ∀ reply ∈ replies, reply.moment ≤ limit)
    {last : Reply} (hlast : last.moment = limit) : arrival now (replies ++ [last]) = limit := by
  rw [arrival, List.foldl_append]
  change max (arrival now replies) last.moment = limit
  rw [hlast]
  exact max_eq_right (arrival_le hnow hreplies)

namespace Registrar

/-- The window for an acknowledgement is fixed when the registration has been sent. The attempt ends by the
moment at which it closes, after at most one receive more than there are replies; and a reply that decides
and comes at that very moment decides, however many acknowledgements of other registrations are before it. -/
theorem window_fixed (registrar : Registrar) (identity : Identity) (files : FileTree)
    (now deadline closes : Moment) (exchange : Exchange)
    (hsent : (registrar.sending identity files now exchange).1 = .ok ())
    (hfits : Clock.canTell now registrar.ackTimeout)
    (hcloses : Clock.FirstAfter now registrar.ackTimeout closes) :
    let link := exchange.link
    let attempted := (registrar.attempt identity files).run now deadline exchange
    let pool := registrar.pool identity exchange
    (∃ count awaited,
      Receives link (registrar.window closes deadline exchange) now link.wire.replies count awaited ∧
        attempted.ended = awaited.ended.giving pool ∧ attempted.state.link.wire.replies = awaited.rest ∧
        count ≤ link.wire.replies.length + 1) ∧
      ((∃ moment result, attempted.ended = .done moment result ∧ moment ≤ closes) ∨
        attempted.ended = .cut ∧ deadline < closes) ∧
      (∀ foreign own rest result, link.wire.replies = foreign ++ own :: rest →
        (∀ other ∈ foreign, Foreign link exchange.nextId other ∧ other.moment ≤ closes) →
        own.moment = closes → meant link exchange.nextId own = .decides result → closes ≤ deadline →
          attempted.ended = .done closes (result.map fun _ ↦ pool)) := by
  intro link attempted pool
  have htell := hcloses.deadline? hfits
  have hended : attempted.ended = (registrar.awaiting now closes deadline exchange).ended.giving pool :=
    registrar.run_of_sent identity files deadline hsent htell
  have hrest := (waits_of_sent deadline hsent htell).2
  obtain ⟨count, hreceives⟩ := exists_receives link (registrar.window closes deadline exchange) now
    link.wire.replies
  have hby : attempted.ended.By closes deadline := hended ▸ (hreceives.by_closes hcloses.le).giving pool
  refine ⟨⟨count, _, hreceives, hended, hrest, hreceives.count_le⟩, ?_, ?_⟩
  · cases hcase : attempted.ended with
    | broken => exact absurd hcase hby.unbroken
    | cut => exact .inr ⟨rfl, hby.cut hcase⟩
    | done moment result => exact .inl ⟨moment, result, rfl, hby.done moment result hcase⟩
  · intro foreign own rest result hsplit hforeign hown hmeant hdeadline
    have hdecides : DecidedBy link exchange.nextId now link.wire.replies own closes := by
      refine ⟨foreign, rest, hsplit, fun other hother ↦ (hforeign other hother).1, not_foreign_of_meant hmeant, ?_⟩
      exact (arrival_concat hcloses.le (fun other hother ↦ (hforeign other hother).2) hown).symm
    have hkept := await_ne_cut link (registrar.window closes deadline exchange) now link.wire.replies
      hcloses.le hdeadline
    have hawait := await_ended link (registrar.window closes deadline exchange) now link.wire.replies
      hcloses.le hkept
    rw [hended]
    exact Ended.giving_eq_done_iff.2 ⟨result, hawait.1 own closes result hdecides le_rfl hmeant, rfl⟩

/-- Three answers to other registrations, two of them in the last millisecond of the window, and behind them
in the same millisecond the acknowledgement. -/
def throng : Exchange where
  link :=
    { target := "10.0.0.1:5271"
      key := none
      wire :=
        { replies := [⟨7, .ok (Ack.mk 9 true none).toBytes⟩, ⟨10000, .ok (Ack.mk 4 false none).toBytes⟩,
            ⟨10000, .ok (Ack.mk 9 true none).toBytes⟩, ⟨10000, .ok (Ack.mk 1 true none).toBytes⟩] } }

theorem throng_window_fixed :
    let ended := ((patient.attempt ⟨"node-1", ""⟩ {}).run 0 60000 throng).ended
    Clock.canTell 0 patient.ackTimeout ∧ Clock.FirstAfter 0 patient.ackTimeout 10000 ∧
      ((∃ moment result, ended = .done moment result ∧ moment ≤ 10000) ∨ ended = .cut ∧ 60000 < 10000) ∧
      ended = .done 10000 (.ok (patient.pool ⟨"node-1", ""⟩ throng)) := by
  intro ended
  have hcloses : Clock.FirstAfter 0 patient.ackTimeout 10000 :=
    Clock.firstAfter_afterSpan 0 patient.ackTimeout
  have hfixed := window_fixed patient ⟨"node-1", ""⟩ {} 0 60000 10000 throng rfl (by decide) hcloses
  have hparse : (Ack.ofBytes (Ack.mk 9 true none).toBytes).toOption = some ⟨9, true, none⟩ ∧
      (Ack.ofBytes (Ack.mk 4 false none).toBytes).toOption = some ⟨4, false, none⟩ ∧
      (Ack.ofBytes (Ack.mk 1 true none).toBytes).toOption = some ⟨1, true, none⟩ := by
    decide +kernel
  have hacknowledges {moment : Moment} {ack : Ack} (h : (Ack.ofBytes ack.toBytes).toOption = some ack) :
      Acknowledges throng.link ⟨moment, .ok ack.toBytes⟩ ack := by
    refine ⟨ack.toBytes, rfl, ?_⟩
    cases hack : Ack.ofBytes ack.toBytes <;> simp_all [Except.toOption]
  have hforeign : ∀ other ∈ throng.link.wire.replies.take 3,
      Foreign throng.link throng.nextId other ∧ other.moment ≤ 10000 := by
    rintro other (_ | ⟨_, _ | ⟨_, _ | ⟨_, ⟨⟩⟩⟩⟩)
    · exact ⟨⟨_, hacknowledges hparse.1, by decide⟩, by decide⟩
    · exact ⟨⟨_, hacknowledges hparse.2.1, by decide⟩, by decide⟩
    · exact ⟨⟨_, hacknowledges hparse.1, by decide⟩, by decide⟩
  have hown : meant throng.link throng.nextId ⟨10000, .ok (Ack.mk 1 true none).toBytes⟩ = .decides (.ok ()) :=
    meant_eq_success_iff.2 ⟨_, hacknowledges hparse.2.2, rfl, rfl⟩
  exact ⟨by decide, hcloses, hfixed.2.1,
    hfixed.2.2 (throng.link.wire.replies.take 3) _ [] _ rfl hforeign rfl hown (by decide)⟩

end Registrar

end FleetAgent.Control
