/-
The faults that the flood of accepted settings can stop for.

Settings are accepted with any rate that is not too low and for any time, and a flood can be made of them. But then the
events of a heartbeat period may be too many to count, which shows when the first batch has been written, and the
numbers of the events may run out before the time is over.

- `Sound`, `step_sound`: what a flood has counted when it stops for a fault, and that it does not when it must;
- `exists_ok_iff_of_prompt`: which floods come to their end when nothing holds them up;
- `accepted_flood_faults`: when the flood of accepted settings stops, and for what.
-/
import CallFeed.Proofs.Flood.Prompt
import CallFeed.Settings

namespace CallFeed

open CallFeed.Feed

theorem Factory.fault_batch (f : Factory) (src : Source) {count counter pos : Nat} {fault : Fault}
    (h : (f.batch src count counter pos).fault = some fault) : fault = .callIdOverflow := by
  induction count generalizing counter pos with
  | zero => cases h
  | succ count ih =>
    simp only [batch] at h
    split at h
    · cases h
      rfl
    · exact ih h

namespace Flooder

variable {f : Flooder} {src : Source} {w : Writer} {r : Run}

/-! ## Stopping for a fault -/

/-- the events of a heartbeat period can be counted -/
def Countable (f : Flooder) : Prop := f.rate * heartbeatSeconds ≤ maxCount

/-- with a period that cannot be counted no flood gets past its first batch, and where a flood has stopped there was
a reason to -/
def Sound (f : Flooder) (p : Point) : Prop :=
  match p.stage with
  | .pace => f.Countable ∨ p.run.batches = 1
  | .beat => f.Countable ∨ p.run.batches = 1
  | .ended (.stopped .periodOverflow) => ¬ f.Countable ∧ p.run.batches = 1
  | .ended (.stopped .callIdOverflow) => f.Countable ∧ lastCallId < (p.run.batches + 1) * f.batchSize
  | .ended (.stopped (.rateTooLow _ _)) => False
  | _ => f.Countable ∨ p.run.batches = 0

theorem Sound.stopped {fault : Fault} (h : f.Sound ⟨r, .ended (.stopped fault)⟩) :
    fault = .periodOverflow ∧ ¬ f.Countable ∧ r.batches = 1 ∨
      fault = .callIdOverflow ∧ f.Countable ∧ lastCallId < (r.batches + 1) * f.batchSize := by
  cases fault with
  | rateTooLow rate least => exact h.elim
  | periodOverflow => exact Or.inl ⟨rfl, h⟩
  | callIdOverflow => exact Or.inr ⟨rfl, h⟩

theorem batchSize_le_lastCallId (f : Flooder) : f.batchSize ≤ lastCallId := by
  have h : f.batchSize ≤ maxBatchSize := (batchSize_le f.rate).1
  exact Nat.le_trans h (by decide)

/-- a draw that stops has not numbers enough for a batch -/
theorem room_of_spent {r' : Run} {text : Text} {fault : Fault} (hb : BetweenRounds (f.course src) r)
    (h : f.draw src r = (r', text, some fault)) :
    fault = .callIdOverflow ∧ lastCallId < (r.batches + 1) * f.batchSize := by
  have hfault : (f.factory.batch src f.batchSize r.counter r.pos).fault = some fault := congrArg (·.2.2) h
  refine ⟨Factory.fault_batch _ _ hfault, ?_⟩
  by_contra hroom
  have hcounter : r.counter = r.batches * f.batchSize := by
    have hc := hb.counter
    rwa [List.append_nil, Course.batchCount_order] at hc
  have hle : r.counter + f.batchSize ≤ lastCallId := by
    rw [hcounter, ← Nat.succ_mul]
    exact Nat.le_of_not_lt hroom
  have hnone : (f.draw src r).2.2 = none := draw_of_room hle
  rw [h] at hnone
  cases hnone

/-- **A step keeps a flood sound.** -/
theorem step_sound {p q : Point} (hs : f.Step src w p q) (hc : OnCourse f src p) (h : f.Sound p) : f.Sound q := by
  cases hs with
  | call hne hok => exact h
  | fail hne he => exact h
  | beaten => exact h
  | counted => exact h.imp_right (congrArg (· + 1))
  | close ht => exact h
  | draw ht hd =>
    obtain ⟨-, rfl⟩ := draw_eq hd
    exact h
  | @spent r r' text fault ht hd =>
    obtain ⟨rfl, hroom⟩ := room_of_spent hc.2 hd
    obtain ⟨counter, pos, rfl⟩ := run_of_draw hd
    refine ⟨?_, hroom⟩
    rcases h with hcount | hzero
    · exact hcount
    · -- the numbers are enough for the first batch
      have hfirst := f.batchSize_le_lastCallId
      rw [hzero, Nat.zero_add, Nat.one_mul] at hroom
      omega
  | @pace r =>
    have hbatches : (r.pace f.rate).batches = r.batches := Run.batches_eq_of_totals (r.pace_totals f.rate).1
    exact h.imp_right hbatches.trans
  | skip hb => exact Or.inl (heartbeatDue_of_ok hb)
  | beat hb => exact Or.inl (heartbeatDue_of_ok hb)
  | unknown hb =>
    obtain ⟨rfl, hlt⟩ := heartbeatDue_of_error hb
    have huncountable : ¬ f.Countable := Nat.not_le.2 hlt
    exact ⟨huncountable, h.resolve_left huncountable⟩
  | flush =>
    unfold Run.finish Finish.point
    cases w.flushError with
    | none => exact h
    | some e => exact h

theorem sound_of_reaches {p : Point} (h : f.Reaches src w .start p) : f.Sound p := by
  refine Reaches.keeps_from_start ?_ (fun _ _ hp hs hsound => step_sound hs (onCourse_of_reaches hp) hsound) h
  exact Or.inr rfl

theorem faults_of_stopped {fault : Fault} (h : (f.flood src w).outcome = .error fault) :
    fault = .periodOverflow ∧ ¬ f.Countable ∧ (f.flood src w).run.batches = 1 ∨
      fault = .callIdOverflow ∧ f.Countable ∧ lastCallId < ((f.flood src w).run.batches + 1) * f.batchSize := by
  have hsound := sound_of_reaches (f.reaches_flood src w)
  rw [Finish.outcome_eq_error_iff] at h
  unfold Finish.point at hsound
  rw [h] at hsound
  exact hsound.stopped

/-- **A flood whose period cannot be counted stops for that as soon as a batch has been written.** -/
theorem stopped_for_period_iff : (f.flood src w).outcome = .error .periodOverflow ↔
    ¬ f.Countable ∧ 0 < (f.flood src w).run.batches := by
  constructor
  · intro h
    rcases faults_of_stopped h with ⟨-, hcount, hone⟩ | ⟨hfault, -⟩
    · exact ⟨hcount, hone ▸ Nat.one_pos⟩
    · cases hfault
  · rintro ⟨hcount, hpos⟩
    have hsound := sound_of_reaches (f.reaches_flood src w)
    rw [Finish.outcome_eq_error_iff]
    generalize f.flood src w = d at hpos hsound
    obtain ⟨r, ending⟩ := d
    have hsome (h : f.Countable ∨ r.batches = 0) : False := by
      rcases h with h | h
      · exact hcount h
      · exact absurd h (Nat.ne_of_gt hpos)
    cases ending with
    | completed => exact (hsome hsound).elim
    | broken e => exact (hsome hsound).elim
    | stopped fault =>
      rcases Sound.stopped hsound with ⟨rfl, -⟩ | ⟨-, hc, -⟩
      · rfl
      · exact absurd hc hcount

/-- no event is ever numbered beyond the last number -/
theorem step_counter_le {p q : Point} (hs : f.Step src w p q) (h : p.run.counter ≤ lastCallId) :
    q.run.counter ≤ lastCallId := by
  cases hs with
  | draw ht hd => exact (draw_counter hd).2
  | @spent r r' text fault ht hd =>
    have hfault : (f.factory.batch src f.batchSize r.counter r.pos).fault = some fault := congrArg (·.2.2) hd
    have hstop : (f.draw src r).1.counter = lastCallId :=
      Factory.batch_stops _ _ h (hfault.symm ▸ Option.some_ne_none fault)
    rw [hd] at hstop
    exact Nat.le_of_eq hstop
  | @pace r => exact (Run.counter_eq_of_totals (r.pace_totals f.rate).1).symm ▸ h
  | flush => exact h
  | _ => exact h

theorem counter_le_of_reaches {p : Point} (h : f.Reaches src w .start p) : p.run.counter ≤ lastCallId :=
  h.keeps (P := fun p => p.run.counter ≤ lastCallId) (fun _ _ hs hp => step_counter_le hs hp) (Nat.zero_le _)

/-! ## Writing a first batch -/

/-- a batch has been begun, or one has been written -/
def Begun (p : Point) : Prop := (∃ n rest, p.stage = .write (.batch n) rest) ∨ 0 < p.run.batches

/-- a batch once begun is written, when no call can end the flood -/
theorem step_begun (hw : w.Unfailing) {p q : Point} (hs : f.Step src w p q) (h : Begun p) : Begun q := by
  rcases h with ⟨n, rest, hstage⟩ | hpos
  · cases hs with
    | call hne hok =>
      cases hstage
      exact Or.inl ⟨n, _, rfl⟩
    | @fail r p rest e hne he =>
      rw [r.fatal?_nextCall hw hne] at he
      cases he
    | counted => exact Or.inr (Nat.succ_pos _)
    | _ => cases hstage
  · rcases step_batches hs with heq | ⟨-, hsucc⟩
    · exact Or.inr (heq ▸ hpos)
    · exact Or.inr (hsucc ▸ Nat.succ_pos _)

/-- when no call can end it, a flood that has time left after its first heartbeat writes a batch -/
theorem batches_pos_of_time_left (hw : w.Unfailing) (hr : f.Reaches src w .start ⟨r, .look⟩)
    (ht : r.elapsed < f.duration) : 0 < (f.flood src w).run.batches := by
  have hbetween : BetweenRounds (f.course src) r := (onCourse_of_reaches hr).2
  have hbegun : Begun (f.flood src w).point := by
    rcases (reaches_end hr).cases_head with heq | ⟨q, hq, hrest⟩
    · cases heq
    · have hrest : f.Reaches src w q (f.flood src w).point := hrest
      refine hrest.keeps (fun _ _ hs hb => step_begun hw hs hb) ?_
      cases hq with
      | close hle => exact absurd hle (Nat.not_le.2 ht)
      | draw ht hd => exact Or.inl ⟨_, _, rfl⟩
      | @spent _ r' text fault ht hd =>
        obtain ⟨-, hroom⟩ := room_of_spent hbetween hd
        obtain ⟨counter, pos, rfl⟩ := run_of_draw hd
        refine Or.inr (Nat.pos_of_ne_zero fun hzero => ?_)
        have hzero : r.batches = 0 := hzero
        have hfirst := f.batchSize_le_lastCallId
        rw [hzero, Nat.zero_add, Nat.one_mul] at hroom
        omega
  rcases hbegun with ⟨n, rest, hstage⟩ | hpos
  · cases hstage
  · exact hpos

/-! ## Which floods come to their end -/

/-- **When nothing holds it up, a flood comes to its end just when** its period can be counted, or it has no time, and
there are numbers for its events up to a turn that is not before its duration. -/
theorem exists_ok_iff_of_prompt (hw : w.Prompt) : (∃ o, (f.flood src w).outcome = .ok o) ↔
    (f.Countable ∨ f.duration = 0) ∧
      ∃ n, n * f.batchSize ≤ lastCallId ∧ f.duration ≤ f.turn n * Duration.nanosPerMilli := by
  have hsound := sound_of_reaches (f.reaches_flood src w)
  have htime := onTime_of_reaches hw (f.reaches_flood src w)
  constructor
  · rintro ⟨o, ho⟩
    have hcloses := closes_of_prompt hw ho
    have hle : f.duration ≤ f.turn (f.flood src w).run.batches * Duration.nanosPerMilli := hcloses.batches.1
    have hnumbers : (f.flood src w).run.batches * f.batchSize ≤ lastCallId := by
      have hcounter : (f.flood src w).run.counter ≤ lastCallId := counter_le_of_reaches (f.reaches_flood src w)
      rwa [counter_eq_events hcloses.between, hcloses.events_eq] at hcounter
    refine ⟨?_, _, hnumbers, hle⟩
    by_cases hcount : f.Countable
    · exact Or.inl hcount
    · have hzero : (f.flood src w).run.batches = 0 := by
        by_contra hne
        have hstop : (f.flood src w).outcome = .error .periodOverflow :=
          stopped_for_period_iff.2 ⟨hcount, Nat.pos_of_ne_zero hne⟩
        rw [ho] at hstop
        cases hstop
      rw [hzero, f.turn_zero, Nat.zero_mul] at hle
      exact Or.inr (Nat.le_zero.1 hle)
  · rintro ⟨hcount, n, hn, hle⟩
    refine Finish.exists_ok_of_not_stopped fun fault hfault => ?_
    generalize f.flood src w = d at hsound htime hfault
    obtain ⟨r, ending⟩ := d
    obtain rfl : ending = .stopped fault := hfault
    obtain ⟨hpast, hclock⟩ := htime
    rcases Sound.stopped hsound with ⟨-, hnot, hone⟩ | ⟨rfl, -, hroom⟩
    · -- a batch was written, so there was time for it
      have hpos : f.turn 0 * Duration.nanosPerMilli < f.duration := hpast 0 (hone.symm ▸ Nat.one_pos)
      have hzero : f.duration = 0 := hcount.resolve_left hnot
      omega
    · -- the turn that is late enough is that of batches already written
      obtain ⟨hturn, ht⟩ := hclock rfl
      have hlt : n < r.batches + 1 := Nat.lt_of_mul_lt_mul_right (Nat.lt_of_le_of_lt hn hroom)
      have hmono : f.turn n * Duration.nanosPerMilli ≤ f.turn r.batches * Duration.nanosPerMilli :=
        Nat.mul_le_mul_right _ (f.turn_mono (Nat.le_of_lt_succ hlt))
      have helapsed : r.elapsed = f.turn r.batches * Duration.nanosPerMilli := elapsed_eq_turn hturn
      have hpast : r.elapsed < f.duration := ht
      omega

/-! ## The flood of accepted settings -/

/-- settings that are accepted make a flood of their rate and their duration -/
theorem exists_of_validated {s t : Settings} (h : s.validated = .ok t) :
    ∃ f, Flooder.of t.rate.toNat t.duration ⟨t.consistentTenants⟩ = .ok f ∧ f.rate = t.rate.toNat ∧
      f.duration = t.duration := by
  have hrate : minRate ≤ t.rate.toNat := Settings.minRate_le_of_validated h
  exact ⟨⟨_, _, _, hrate⟩, dif_pos hrate, rfl, rfl⟩

/-- **The flood of accepted settings stops for two faults and no other.** A flood can always be made of them. It stops
for its heartbeat period just when fifteen seconds' worth of events cannot be counted and a batch has been written. It
stops for its numbers only when there are not enough for one more batch. It stops for neither when the rate, the
duration and the events they come to keep to the bounds. And where nothing holds it up, it comes to its end just when
the period can be counted, or there is no time, and the numbers last until a turn that is not before the duration. -/
theorem accepted_flood_faults {s t : Settings} (h : s.validated = .ok t) :
    ∃ f, Flooder.of t.rate.toNat t.duration ⟨t.consistentTenants⟩ = .ok f ∧ ∀ (src : Source) (w : Writer),
      ((f.flood src w).outcome = .error .periodOverflow ↔
        maxCount < t.rate.toNat * heartbeatSeconds ∧ 0 < (f.flood src w).run.batches) ∧
      (∀ fault, (f.flood src w).outcome = .error fault → fault = .periodOverflow ∨
        fault = .callIdOverflow ∧ lastCallId < ((f.flood src w).run.batches + 1) * f.batchSize) ∧
      (t.rate.toNat ≤ maxCount / heartbeatSeconds → t.duration ≤ maxCount →
        t.duration * t.rate.toNat ≤ Duration.nanosPerSecond * (UInt64.size - 1001) →
        ∃ o, (f.flood src w).outcome = .ok o) ∧
      (w.Prompt → ((∃ o, (f.flood src w).outcome = .ok o) ↔
        (t.rate.toNat * heartbeatSeconds ≤ maxCount ∨ t.duration = 0) ∧
          ∃ n, n * f.batchSize ≤ lastCallId ∧ t.duration ≤
            Duration.ceilMillis (min (n * f.batchSize * Duration.nanosPerSecond / t.rate.toNat) maxCount) *
              Duration.nanosPerMilli)) := by
  obtain ⟨f, hf, hrate, hduration⟩ := exists_of_validated h
  refine ⟨f, hf, fun src w => ⟨?_, ?_, ?_, ?_⟩⟩
  · rw [stopped_for_period_iff, Countable, hrate, Nat.not_le]
  · intro fault hfault
    rcases faults_of_stopped hfault with ⟨hperiod, -⟩ | ⟨hnumbers, -, hroom⟩
    · exact Or.inl hperiod
    · exact Or.inr ⟨hnumbers, hroom⟩
  · rw [← hrate, ← hduration]
    intro hle hcounted hwork
    exact exists_ok_of_bounded ⟨hle, hcounted, hwork⟩
  · intro hw
    rw [← hrate, ← hduration]
    exact exists_ok_iff_of_prompt hw

/-- the settings a server starts with when nothing is set: whoever the client is, its flood comes to its end -/
theorem default_flood_ends :
    ({} : Settings).validated = .ok {} ∧ ∃ f, Flooder.of 10000 (60 * Duration.nanosPerSecond) ⟨false⟩ = .ok f ∧
      ∀ (src : Source) (w : Writer), ∃ o, (f.flood src w).outcome = .ok o := by
  have haccepted : ({} : Settings).validated = .ok {} := by decide +kernel
  obtain ⟨f, hf, hfaults⟩ := accepted_flood_faults haccepted
  refine ⟨haccepted, f, hf, ?_⟩
  intro src w
  exact (hfaults src w).2.2.1 (by decide) (by decide) (by decide)

/-- fifteen seconds' worth of events at this rate are too many to be counted, and yet it is accepted: the flood stops
when it has written its first batch -/
theorem accepted_rate_overflows :
    let s : Settings := { rate := 1229782938247303442, durationSecs := 1 }
    let w : Writer := { delay := fun n => if n = 2 then 1000 else 0 }
    s.validated = .ok s ∧ ∃ f, Flooder.of s.rate.toNat s.duration ⟨s.consistentTenants⟩ = .ok f ∧
      (f.flood { words := Words.seeded 7 } w).outcome = .error .periodOverflow := by
  intro s w
  let f : Flooder := ⟨s.rate.toNat, s.duration, ⟨s.consistentTenants⟩, by decide⟩
  let src : Source := { words := Words.seeded 7 }
  have hw : w.Unfailing := ⟨by decide, by decide, rfl⟩
  have hcount : ¬ f.Countable := by
    unfold Countable
    decide
  -- the first heartbeat is taken at once, which leaves the whole second
  have hlook : f.Reaches src w .start (f.steps src w 2 .start) := f.reaches_steps src w 2 .start
  have hstage : (f.steps src w 2 .start).stage = .look := by decide +kernel
  have helapsed : (f.steps src w 2 .start).run.elapsed < f.duration := by decide +kernel
  generalize f.steps src w 2 .start = p at hlook hstage helapsed
  obtain ⟨r, stage⟩ := p
  obtain rfl : stage = .look := hstage
  have hpos : 0 < (f.flood src w).run.batches := batches_pos_of_time_left hw hlook helapsed
  exact ⟨by decide +kernel, f, rfl, stopped_for_period_iff.2 ⟨hcount, hpos⟩⟩

end Flooder

end CallFeed
