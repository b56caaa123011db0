/-
A flood that nothing holds up.

Its writer answers every call at once, and a call fails only by being interrupted. Then nothing but the schedule moves
the clock: wherever the flood looks at it, it shows the time that the batches so far are due, in whole milliseconds. So
the flood writes the fewest batches whose time is not before its duration, whatever the writer takes at a time.

- `OnTime`, `step_onTime`: what the clock shows wherever such a flood stands;
- `closes_of_prompt`: where it ends, if it is not stopped;
- `prompt_flood_closes`: its totals and its time in closed form, when it keeps to the bounds.
-/
import Mathlib.Order.Bounds.Basic
import CallFeed.Proofs.Flood.Failure
import CallFeed.Proofs.Flood.Pacing

namespace CallFeed

open CallFeed.Feed

/-- no call of the writer takes time, and none fails but by an interruption -/
structure Writer.Prompt (w : Writer) : Prop extends w.Unfailing where
  delay : ∀ call, w.delay call = 0

theorem Run.clock_record {w : Writer} (h : w.Prompt) (r : Run) (offered : Octets) :
    (r.record (r.nextCall w offered)).clock = r.clock := by
  show r.clock + w.delay (r.calls.size + 1) = r.clock
  rw [h.delay]
  exact Nat.add_zero _

namespace Flooder

/-! ## The turns of the schedule -/

/-- the milliseconds at which a wait after so many batches ends -/
def turn (f : Flooder) (n : Nat) : Nat := Duration.ceilMillis (f.due n)

theorem turn_zero (f : Flooder) : f.turn 0 = 0 := by
  have hdue : f.due 0 = 0 := by rw [due, expectedElapsed, Nat.zero_mul, Nat.zero_mul, Nat.zero_div, Nat.zero_min]
  rw [turn, hdue]
  rfl

theorem turn_mono (f : Flooder) {m n : Nat} (h : m ≤ n) : f.turn m ≤ f.turn n := Duration.ceilMillis_mono (f.due_mono h)

/-- up to the largest time that is counted the schedule need not be capped -/
theorem le_turn_iff {f : Flooder} {n time : Nat} (ht : time ≤ maxCount) :
    time ≤ f.turn n * Duration.nanosPerMilli ↔
      time ≤ Duration.ceilMillis (n * f.batchSize * Duration.nanosPerSecond / f.rate) * Duration.nanosPerMilli := by
  have hcap : f.due n = min (n * f.batchSize * Duration.nanosPerSecond / f.rate) maxCount := rfl
  unfold turn
  rw [hcap]
  generalize n * f.batchSize * Duration.nanosPerSecond / f.rate = a
  constructor
  · intro h
    exact Nat.le_trans h (Nat.mul_le_mul_right _ (Duration.ceilMillis_mono (Nat.min_le_left a maxCount)))
  · intro h
    rcases Nat.le_total a maxCount with hle | hle
    · rwa [Nat.min_eq_left hle]
    · rw [Nat.min_eq_right hle]
      exact Nat.le_trans ht (Duration.le_ceilMillis_mul maxCount)

/-! ## The clock of a flood that nothing holds up -/

/-- what the clock shows: the turn of the batches counted, and before a wait that of all but the last; and no turn
before the last was late enough for the flood to end -/
def OnTime (f : Flooder) (p : Point) : Prop :=
  (∀ n, n < p.run.batches → f.turn n * Duration.nanosPerMilli < f.duration) ∧
    match p.stage with
    | .write .heartbeat _ => p.run.clock = f.turn p.run.batches
    | .write (.batch _) _ => p.run.clock = f.turn p.run.batches ∧ p.run.elapsed < f.duration
    | .look => p.run.clock = f.turn p.run.batches
    | .pace => ∃ n, p.run.batches = n + 1 ∧ p.run.clock = f.turn n
    | .beat => p.run.clock = f.turn p.run.batches
    | .flush => p.run.clock = f.turn p.run.batches ∧ f.duration ≤ p.run.elapsed
    | .ended .completed => p.run.clock = f.turn p.run.batches ∧ f.duration ≤ p.run.elapsed
    | .ended (.broken _) => False
    | .ended (.stopped fault) =>
      fault = .callIdOverflow → p.run.clock = f.turn p.run.batches ∧ p.run.elapsed < f.duration

variable {f : Flooder} {src : Source} {w : Writer}

theorem elapsed_eq_turn {r : Run} (h : r.clock = f.turn r.batches) :
    r.elapsed = f.turn r.batches * Duration.nanosPerMilli := by
  rw [← h]
  rfl

theorem clock_pace_eq_turn {r : Run} {n : Nat} (hevents : r.events = (n + 1) * f.batchSize) (h : r.clock = f.turn n) :
    (r.pace f.rate).clock = f.turn (n + 1) := by
  have hle : f.turn n ≤ f.turn (n + 1) := f.turn_mono (Nat.le_succ n)
  rw [Run.clock_pace, hevents, h]
  exact Nat.max_eq_right hle

theorem events_of_pace {r : Run} (h : OnCourse f src ⟨r, .pace⟩) : r.events = r.batches * f.batchSize := by
  obtain ⟨-, n, hacc⟩ := h
  have hevents := hacc.events
  rw [← hacc.batches] at hevents
  exact hevents

/-- **A step keeps the clock on the schedule** when nothing but the schedule moves it. -/
theorem step_onTime (hw : w.Prompt) {p q : Point} (hs : f.Step src w p q) (hc : OnCourse f src p) (h : f.OnTime p) :
    f.OnTime q := by
  cases hs with
  | @call r q rest hne hok =>
    refine ⟨h.1, ?_⟩
    have hclock := r.clock_record hw rest
    cases q with
    | heartbeat => exact hclock.trans h.2
    | batch n =>
      refine ⟨hclock.trans h.2.1, ?_⟩
      rw [Run.elapsed, hclock]
      exact h.2.2
  | @fail r q rest e hne he =>
    rw [r.fatal?_nextCall hw.toUnfailing hne] at he
    cases he
  | beaten => exact h
  | @counted r n =>
    obtain ⟨hpast, hclock, ht⟩ := h
    refine ⟨?_, r.batches, rfl, hclock⟩
    intro m hm
    rcases Nat.lt_or_eq_of_le (Nat.le_of_lt_succ hm) with hlt | rfl
    · exact hpast m hlt
    · rwa [elapsed_eq_turn hclock] at ht
  | close ht => exact ⟨h.1, h.2, ht⟩
  | @draw r r' text ht hd =>
    obtain ⟨-, rfl⟩ := draw_eq hd
    exact ⟨h.1, h.2, ht⟩
  | @spent r r' text fault ht hd =>
    obtain ⟨counter, pos, rfl⟩ := run_of_draw hd
    exact ⟨h.1, fun _ => ⟨h.2, ht⟩⟩
  | @pace r =>
    obtain ⟨hpast, n, hn, hclock⟩ := h
    have hevents : r.events = (n + 1) * f.batchSize := by rw [events_of_pace hc, hn]
    have hbatches : (r.pace f.rate).batches = n + 1 := (Run.batches_eq_of_totals (r.pace_totals f.rate).1).trans hn
    refine ⟨fun m hm => hpast m ?_, ?_⟩
    · show m < r.batches
      rw [hn, ← hbatches]
      exact hm
    · show (r.pace f.rate).clock = f.turn (r.pace f.rate).batches
      rw [hbatches]
      exact clock_pace_eq_turn hevents hclock
  | skip hb => exact h
  | beat hb => exact h
  | unknown hb =>
    refine ⟨h.1, ?_⟩
    rintro rfl
    cases (heartbeatDue_of_error hb).1
  | flush =>
    unfold Run.finish Finish.point
    rw [hw.flushes]
    exact h

theorem onTime_of_reaches (hw : w.Prompt) {p : Point} (h : f.Reaches src w .start p) : f.OnTime p := by
  refine Reaches.keeps_from_start ⟨?_, ?_⟩ (fun _ _ hp hs ht => step_onTime hw hs (onCourse_of_reaches hp) ht) h
  · intro n hn
    exact absurd hn (Nat.not_lt_zero n)
  · exact f.turn_zero.symm

/-! ## Where it ends -/

/-- a flood that nothing holds up, if it is not stopped, ends at the first turn that is not before its duration -/
structure Closes (f : Flooder) (src : Source) (d : Finish) : Prop where
  outcome : d.outcome = .ok (.completed d.run.summary)
  batches : IsLeast {n | f.duration ≤ f.turn n * Duration.nanosPerMilli} d.run.batches
  elapsed : d.run.elapsed = f.turn d.run.batches * Duration.nanosPerMilli
  between : BetweenRounds (f.course src) d.run

theorem closes_of_prompt (hw : w.Prompt) {o : Outcome} (h : (f.flood src w).outcome = .ok o) :
    f.Closes src (f.flood src w) := by
  have htime := onTime_of_reaches hw (f.reaches_flood src w)
  have hcourse := f.onCourse_flood src w
  have hstopped := Finish.not_stopped_of_ok h
  generalize f.flood src w = d at h htime hcourse hstopped
  obtain ⟨r, ending⟩ := d
  cases ending with
  | completed =>
    obtain ⟨hpast, hclock, hle⟩ := htime
    have helapsed : r.elapsed = f.turn r.batches * Duration.nanosPerMilli := elapsed_eq_turn hclock
    refine ⟨rfl, ⟨?_, ?_⟩, helapsed, hcourse.2⟩
    · show f.duration ≤ f.turn r.batches * Duration.nanosPerMilli
      rw [← helapsed]
      exact hle
    · intro n hn
      by_contra hlt
      exact absurd (hpast n (Nat.lt_of_not_le hlt)) (Nat.not_lt.2 hn)
  | broken e => exact htime.2.elim
  | stopped fault => exact absurd rfl (hstopped fault)

namespace Closes

variable {d : Finish} (h : f.Closes src d)

include h

/-- up to the largest time that is counted, the batches are the fewest whose time, uncapped, is not before the
duration -/
theorem isLeast (hduration : f.duration ≤ maxCount) :
    IsLeast {n | f.duration ≤ Duration.ceilMillis (n * f.batchSize * Duration.nanosPerSecond / f.rate) *
      Duration.nanosPerMilli} d.run.batches := by
  refine ⟨(le_turn_iff hduration).1 h.batches.1, ?_⟩
  intro n hn
  exact h.batches.2 ((le_turn_iff hduration).2 hn)

theorem events_eq : d.run.events = d.run.batches * f.batchSize := by
  have hevents := h.between.events
  rwa [Course.batchCount_order] at hevents

end Closes

/-- a flood that keeps to the bounds and that nothing holds up runs its time -/
theorem closes_of_bounded (hb : f.Bounded) (hw : w.Prompt) : f.Closes src (f.flood src w) := by
  obtain ⟨o, ho⟩ := exists_ok_of_bounded hb
  exact closes_of_prompt hw ho

end Flooder

end CallFeed
