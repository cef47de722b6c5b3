import FleetAgent.Time.Clock
import Mathlib.Order.Bounds.Basic

/-!
# Waiting on the millisecond clock

A wait ends at the first whole millisecond at which its span is over. The bounds here say how that
rounding fits together with sums of spans: when the time since a start and one more pause stay within
a span, then the pause ends no later than the whole span does.
-/

namespace FleetAgent

/-- The moment is the first whole millisecond at which the span is over. -/
def Clock.FirstAfter (start : Moment) (span : Span) (moment : Moment) : Prop :=
  IsLeast {m : Moment | Span.perMilli * start + span.nanos ≤ Span.perMilli * m} moment

/-- The whole milliseconds that the span takes, the last one counted in full. -/
def Span.ceilMillis (span : Span) : Nat := Clock.afterSpan 0 span

namespace Clock

theorem afterSpan_le_iff (start moment : Moment) (span : Span) :
    afterSpan start span ≤ moment ↔ Span.perMilli * start + span.nanos ≤ Span.perMilli * moment := by
  unfold afterSpan Span.perMilli Moment at *
  omega

/-- A wait for a span ends at the first whole millisecond at which the span is over. -/
theorem firstAfter_afterSpan (start : Moment) (span : Span) :
    FirstAfter start span (afterSpan start span) := by
  constructor
  · exact (afterSpan_le_iff start _ span).1 le_rfl
  · intro moment hmoment
    exact (afterSpan_le_iff start moment span).2 hmoment

theorem FirstAfter.eq_afterSpan {start moment : Moment} {span : Span}
    (h : FirstAfter start span moment) : moment = afterSpan start span :=
  h.unique (firstAfter_afterSpan start span)

theorem afterSpan_eq_add (start : Moment) (span : Span) :
    afterSpan start span = start + span.ceilMillis := by
  simp [Span.ceilMillis, afterSpan]

theorem le_afterSpan (start : Moment) (span : Span) : start ≤ afterSpan start span := by
  rw [afterSpan_eq_add]
  exact Nat.le_add_right _ _

theorem le_wake (now : Moment) (span : Span) : now ≤ wake now span :=
  le_afterSpan now _

theorem afterSpan_le_afterSpan (start : Moment) {span longer : Span} (hle : span.nanos ≤ longer.nanos) :
    afterSpan start span ≤ afterSpan start longer := by
  rw [afterSpan_le_iff]
  exact (Nat.add_le_add_left hle _).trans ((afterSpan_le_iff start _ longer).1 le_rfl)

/-- However short a span is, the clock goes on before it is over. -/
theorem lt_afterSpan (start : Moment) {span : Span} (h : 0 < span.nanos) : start < afterSpan start span := by
  rw [← not_le, afterSpan_le_iff, not_le]
  exact Nat.lt_add_of_pos_right h

theorem lt_wake (now : Moment) {span : Span} (h : span ≠ .zero) : now < wake now span := by
  apply lt_afterSpan
  split
  · exact Nat.pos_of_ne_zero fun hzero ↦ h (congrArg Span.mk hzero)
  · decide

theorem canTell_iff (now : Moment) (span : Span) :
    canTell now span = true ↔ Span.perMilli * now + span.nanos < Nat.pow 2 63 * Span.perSecond := by
  simp [canTell]

/-- What the clock can tell from a later moment it can tell from an earlier one. -/
theorem canTell_of_le {now later : Moment} {span : Span} (hle : now ≤ later)
    (h : canTell later span) : canTell now span := by
  rw [canTell_iff] at h ⊢
  have hmul := Nat.mul_le_mul_left Span.perMilli hle
  exact (Nat.add_le_add_right hmul _).trans_lt h

theorem canTell_of_span_le {now : Moment} {span longer : Span} (hle : span.nanos ≤ longer.nanos)
    (h : canTell now longer) : canTell now span := by
  rw [canTell_iff] at h ⊢
  exact (Nat.add_le_add_left hle _).trans_lt h

theorem wake_of_canTell {now : Moment} {span : Span} (h : canTell now span) :
    wake now span = afterSpan now span := by
  simp [wake, h]

theorem deadline?_of_canTell {now : Moment} {span : Span} (h : canTell now span) :
    deadline? now span = some (afterSpan now span) := by
  simp [deadline?, h]

theorem FirstAfter.le {start moment : Moment} {span : Span} (h : FirstAfter start span moment) :
    start ≤ moment :=
  h.eq_afterSpan ▸ le_afterSpan start span

/-- The deadline of a span whose end can be told is the first whole millisecond behind it. -/
theorem FirstAfter.deadline? {start moment : Moment} {span : Span} (h : FirstAfter start span moment)
    (htell : canTell start span) : Clock.deadline? start span = some moment :=
  h.eq_afterSpan ▸ deadline?_of_canTell htell

theorem since_le_since {start moment later : Moment} (hle : moment ≤ later) :
    (since start moment).nanos ≤ (since start later).nanos :=
  Nat.mul_le_mul_left _ (Nat.sub_le_sub_right hle start)

/-- A sum of spans that is no longer than what the clock can tell has not been cut short. -/
theorem plus_le_iff_of_canTell {start : Moment} {whole : Span} (hwhole : canTell start whole)
    (a b : Span) : (a.plus b).nanos ≤ whole.nanos ↔ a.nanos + b.nanos ≤ whole.nanos := by
  rw [canTell_iff] at hwhole
  have hlongest : Nat.pow 2 63 * Span.perSecond < Span.longest.nanos := by decide
  have hfits : whole.nanos < Span.longest.nanos :=
    (Nat.le_add_left _ _).trans_lt (hwhole.trans hlongest)
  simp only [Span.plus, Span.least]
  omega

/-- A pause that begins within a span and leaves room for itself ends within it. -/
theorem wake_le_afterSpan {start now : Moment} {whole pause : Span} (hwhole : canTell start whole)
    (hnow : start ≤ now) (hroom : ((since start now).plus pause).nanos ≤ whole.nanos) :
    wake now pause ≤ afterSpan start whole := by
  have hsum := (plus_le_iff_of_canTell hwhole _ _).1 hroom
  have hend : Span.perMilli * now + pause.nanos ≤ Span.perMilli * start + whole.nanos := by
    have hsplit : Span.perMilli * now = Span.perMilli * start + (since start now).nanos := by
      simp only [since, Span.ofMillis]
      rw [← Nat.mul_add, Nat.add_sub_cancel' hnow]
    rw [hsplit, Nat.add_assoc]
    exact Nat.add_le_add_left hsum _
  have htell : canTell now pause := by
    rw [canTell_iff] at hwhole ⊢
    exact hend.trans_lt hwhole
  rw [wake_of_canTell htell, afterSpan_le_iff]
  exact hend.trans ((afterSpan_le_iff start _ whole).1 le_rfl)

end Clock

end FleetAgent
