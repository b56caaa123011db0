/-
The pace of a flood.

The schedule is absolute: it says when the first batch should be out, when the first two, and so on, and a run that has
written a batch before its time waits until then. So a wait leaves nothing of what happened before it. A run that the
writer held up does not wait until it has met its schedule again, and its batches stay as large as they are.

- `expectedElapsed_add_batch`: one more batch is due at most a tenth of a second later;
- `Punctual`, `step_punctual`: how far behind its schedule a flood can be wherever it stands;
- `flood_paces`: what the clock shows after each batch, and how long each wait was.
-/
import CallFeed.Proofs.Flood.Timing

namespace CallFeed

open CallFeed.Feed

deriving instance DecidableEq for Stage

/-! ## The schedule -/

theorem expectedElapsed_mono (rate : Nat) {m n : Nat} (h : m ≤ n) :
    expectedElapsed rate m ≤ expectedElapsed rate n := by
  have hdiv : m * Duration.nanosPerSecond / rate ≤ n * Duration.nanosPerSecond / rate :=
    Nat.div_le_div_right (Nat.mul_le_mul_right _ h)
  unfold expectedElapsed
  omega

/-- a batch is a tenth of a second's worth of events, or less -/
theorem expectedElapsed_add_batch {rate : Nat} (h : 0 < rate) (n : Nat) :
    expectedElapsed rate (n + batchSize rate) ≤ expectedElapsed rate n + 100 * Duration.nanosPerMilli := by
  have hbatch : batchSize rate * Duration.nanosPerSecond ≤ 100 * Duration.nanosPerMilli * rate := by
    have := (batchSize_le rate).2
    simp only [Duration.nanosPerSecond, Duration.nanosPerMilli]
    omega
  have hdiv : (n + batchSize rate) * Duration.nanosPerSecond / rate ≤
      n * Duration.nanosPerSecond / rate + 100 * Duration.nanosPerMilli :=
    calc (n + batchSize rate) * Duration.nanosPerSecond / rate
        = (n * Duration.nanosPerSecond + batchSize rate * Duration.nanosPerSecond) / rate := by rw [Nat.add_mul]
      _ ≤ (n * Duration.nanosPerSecond + 100 * Duration.nanosPerMilli * rate) / rate :=
          Nat.div_le_div_right (Nat.add_le_add_left hbatch _)
      _ = n * Duration.nanosPerSecond / rate + 100 * Duration.nanosPerMilli := Nat.add_mul_div_right _ _ h
  unfold expectedElapsed
  omega

namespace Run

/-- **After waiting the clock shows the later of the time it showed and the time that is due**, in whole
milliseconds. -/
theorem clock_pace (rate : Nat) (r : Run) :
    (r.pace rate).clock = max r.clock (Duration.ceilMillis (expectedElapsed rate r.events)) := by
  unfold pace
  split
  · rename_i h
    have hle : Duration.ceilMillis (expectedElapsed rate r.events) ≤ r.clock :=
      (Duration.ceilMillis_spec _ _).2 (Nat.le_of_sub_eq_zero h)
    exact (Nat.max_eq_left hle).symm
  · rename_i h
    have hlt : r.elapsed < expectedElapsed rate r.events := Nat.lt_of_sub_ne_zero h
    have hsplit : expectedElapsed rate r.events = r.lead rate + r.clock * Duration.nanosPerMilli := by
      unfold lead
      have : r.elapsed = r.clock * Duration.nanosPerMilli := rfl
      omega
    have hclock : Duration.ceilMillis (expectedElapsed rate r.events) =
        r.clock + Duration.ceilMillis (r.lead rate) := by
      rw [hsplit, Duration.ceilMillis_add_mul, Nat.add_comm]
    rw [hclock]
    exact (Nat.max_eq_right (Nat.le_add_right _ _)).symm

theorem pace_of_late {rate : Nat} {r : Run} (h : expectedElapsed rate r.events ≤ r.elapsed) : r.pace rate = r := by
  have hlead : r.lead rate = 0 := Nat.sub_eq_zero_of_le h
  unfold pace
  rw [if_pos hlead]

theorem notes_pace_of_early {rate : Nat} {r : Run} (h : r.elapsed < expectedElapsed rate r.events) :
    (r.pace rate).notes = r.notes.push (.ahead r.events (expectedElapsed rate r.events - r.elapsed)) := by
  have hne : ¬ r.lead rate = 0 := Nat.sub_ne_zero_of_lt h
  unfold pace
  rw [if_neg hne]
  rfl

theorem batches_eq_of_totals {r s : Run} (h : r.totals = s.totals) : r.batches = s.batches := congrArg (·.2.2.2.1) h

/-- every wait that was logged was for some time, and for a tenth of a second at most -/
def ShortWaits (r : Run) : Prop :=
  ∀ events sleep, Note.ahead events sleep ∈ r.notes → 0 < sleep ∧ sleep ≤ 100 * Duration.nanosPerMilli

theorem ShortWaits.congr {r s : Run} (h : r.ShortWaits) (hn : s.notes = r.notes) : s.ShortWaits := by
  unfold ShortWaits
  rw [hn]
  exact h

theorem ShortWaits.pace {rate : Nat} {r : Run} (h : r.ShortWaits)
    (hlead : expectedElapsed rate r.events ≤ r.elapsed + 100 * Duration.nanosPerMilli) : (r.pace rate).ShortWaits := by
  by_cases hlate : expectedElapsed rate r.events ≤ r.elapsed
  · rw [pace_of_late hlate]
    exact h
  · intro events sleep hmem
    have hearly : r.elapsed < expectedElapsed rate r.events := Nat.lt_of_not_le hlate
    rw [notes_pace_of_early hearly, Array.mem_push] at hmem
    rcases hmem with hmem | hmem
    · exact h events sleep hmem
    · have hsleep : sleep = expectedElapsed rate r.events - r.elapsed := by
        cases hmem
        rfl
      omega

end Run

namespace Flooder

/-- the nanoseconds after which so many batches should be out -/
def due (f : Flooder) (n : Nat) : Nat := expectedElapsed f.rate (n * f.batchSize)

theorem rate_pos (f : Flooder) : 0 < f.rate := Nat.lt_of_lt_of_le (by decide) f.rate_ge

theorem due_mono (f : Flooder) {m n : Nat} (h : m ≤ n) : f.due m ≤ f.due n :=
  expectedElapsed_mono f.rate (Nat.mul_le_mul_right _ h)

/-- wherever a flood does not stand before a wait, the time of the batches counted is over; before a wait that of all
but the last is -/
def Punctual (f : Flooder) (p : Point) : Prop :=
  p.run.ShortWaits ∧
    match p.stage with
    | .write _ _ => p.run.OnSchedule f.rate
    | .look => p.run.OnSchedule f.rate
    | .pace => ∃ n, p.run.events = n + f.batchSize ∧ expectedElapsed f.rate n ≤ p.run.elapsed
    | .beat => p.run.OnSchedule f.rate
    | .flush => True
    | .ended _ => True

variable {f : Flooder} {src : Source} {w : Writer} {r : Run}

/-- before a wait the batch last written is due within a tenth of a second -/
theorem Punctual.lead_le (h : f.Punctual ⟨r, .pace⟩) :
    expectedElapsed f.rate r.events ≤ r.elapsed + 100 * Duration.nanosPerMilli := by
  obtain ⟨-, n, hn, hle⟩ := h
  have hadd := expectedElapsed_add_batch f.rate_pos n
  have hbatch : n + CallFeed.batchSize f.rate = r.events := hn.symm
  rw [hbatch] at hadd
  exact Nat.le_trans hadd (Nat.add_le_add_right hle _)

/-- **A step keeps a flood punctual.** -/
theorem step_punctual {p q : Point} (hs : f.Step src w p q) (h : f.Punctual p) : f.Punctual q := by
  cases hs with
  | @call r q rest hne hok => exact ⟨h.1.congr (r.notes_record _), h.2.later rfl (Nat.le_add_right r.clock _)⟩
  | @fail r q rest e hne he => exact ⟨h.1.congr (r.notes_record _), trivial⟩
  | @beaten r => exact ⟨h.1.congr rfl, h.2.later rfl (Nat.le_refl r.clock)⟩
  | @counted r n => exact ⟨h.1.congr rfl, r.events, rfl, h.2⟩
  | close ht => exact ⟨h.1, trivial⟩
  | @draw r r' text ht hd =>
    obtain ⟨-, rfl⟩ := draw_eq hd
    exact ⟨h.1.congr rfl, h.2.later rfl (Nat.le_refl r.clock)⟩
  | @spent r r' text fault ht hd =>
    obtain ⟨counter, pos, rfl⟩ := run_of_draw hd
    exact ⟨h.1.congr rfl, trivial⟩
  | @pace r => exact ⟨h.1.pace h.lead_le, r.onSchedule_pace f.rate⟩
  | skip hb => exact h
  | @beat r hb =>
    refine ⟨?_, h.2.later rfl (Nat.le_refl r.clock)⟩
    intro events sleep hmem
    have hold : Note.ahead events sleep ∈ r.notes := by
      rcases Array.mem_push.1 hmem with hmem | hmem
      · exact hmem
      · cases hmem
    exact h.1 events sleep hold
  | unknown hb => exact ⟨h.1, trivial⟩
  | flush =>
    unfold Run.finish Finish.point
    exact ⟨h.1.congr rfl, trivial⟩

theorem punctual_of_reaches {p : Point} (h : f.Reaches src w .start p) : f.Punctual p := by
  refine h.keeps (fun _ _ hs hp => step_punctual hs hp) ⟨?_, ?_⟩
  · intro events sleep hmem
    exact absurd hmem (Array.not_mem_empty _)
  · show expectedElapsed f.rate 0 ≤ 0
    rw [expectedElapsed, Nat.zero_mul, Nat.zero_div, Nat.zero_min]

/-! ## The batches of a flood -/

/-- a step counts a batch when it has been written, and none otherwise -/
theorem step_batches {p q : Point} (hs : f.Step src w p q) : q.run.batches = p.run.batches ∨
    (∃ r n, p = ⟨r, .write (.batch n) []⟩) ∧ q.run.batches = p.run.batches + 1 := by
  cases hs with
  | @counted r n => exact Or.inr ⟨⟨r, n, rfl⟩, rfl⟩
  | draw ht hd =>
    obtain ⟨-, rfl⟩ := draw_eq hd
    exact Or.inl rfl
  | @spent r r' text fault ht hd =>
    obtain ⟨counter, pos, rfl⟩ := run_of_draw hd
    exact Or.inl rfl
  | @pace r => exact Or.inl (Run.batches_eq_of_totals (r.pace_totals f.rate).1)
  | _ => exact Or.inl rfl

/-- every batch that is counted was written -/
theorem written_of_lt_batches {p : Point} (h : f.Reaches src w .start p) {n : Nat} (hn : n < p.run.batches) :
    ∃ r, f.Reaches src w .start ⟨r, .write (.batch n) []⟩ := by
  induction h with
  | refl => exact absurd hn (Nat.not_lt_zero n)
  | @tail p q hp hs ih =>
    rcases step_batches hs with heq | ⟨⟨r, m, rfl⟩, hsucc⟩
    · exact ih (heq ▸ hn)
    · have hm : r.batches = m := (totals_of_batch (onCourse_of_reaches hp)).1
      rcases Nat.lt_or_eq_of_le (Nat.le_of_lt_succ (hsucc ▸ hn)) with hlt | rfl
      · exact ih hlt
      · exact ⟨r, by rw [← hm] at hp; exact hp⟩

/-- **A flood paces itself by an absolute schedule.** Every batch that is counted was written, and when one has been,
the clock goes on to the later of the time it shows and the time that the batches so far are due, in whole milliseconds,
and from there the flood goes on to its end. A run that is late does not wait. One that is early waits a tenth of a
second at most and then stands where the schedule says, whatever held it up before. All batches are of one size. -/
theorem flood_paces (f : Flooder) (src : Source) (w : Writer) :
    let due (n : Nat) := min (n * f.batchSize * Duration.nanosPerSecond / f.rate) maxCount
    (∀ n, n < (f.flood src w).run.batches → ∃ r, f.Reaches src w .start ⟨r, .write (.batch n) []⟩) ∧
    (∀ n r, f.Reaches src w .start ⟨r, .write (.batch n) []⟩ →
      ∃ r', f.Reaches src w ⟨r, .write (.batch n) []⟩ ⟨r', .beat⟩ ∧
        f.Reaches src w ⟨r', .beat⟩ (f.flood src w).point ∧
        r'.calls = r.calls ∧ r'.batches = n + 1 ∧ r'.events = (n + 1) * f.batchSize ∧ r'.counter = r'.events ∧
        r'.clock = max r.clock (Duration.ceilMillis (due (n + 1))) ∧
        (due (n + 1) ≤ r.elapsed → r'.clock = r.clock ∧ r'.notes = r.notes) ∧
        (r.elapsed < due (n + 1) → r'.clock = Duration.ceilMillis (due (n + 1)) ∧
          r'.notes = r.notes.push (.ahead r'.events (due (n + 1) - r.elapsed)) ∧
          due (n + 1) - r.elapsed ≤ 100 * Duration.nanosPerMilli)) ∧
    ∀ events sleep, Note.ahead events sleep ∈ (f.flood src w).run.notes →
      0 < sleep ∧ sleep ≤ 100 * Duration.nanosPerMilli := by
  intro due
  refine ⟨fun n hn => written_of_lt_batches (f.reaches_flood src w) hn, ?_,
    (punctual_of_reaches (f.reaches_flood src w)).1⟩
  intro n r hr
  obtain ⟨hbatches, hevents, hcounter⟩ := totals_of_batch (onCourse_of_reaches hr)
  have hreach : f.Reaches src w ⟨r, .write (.batch n) []⟩ ⟨(f.count r).pace f.rate, .beat⟩ :=
    .tail (.single .counted) .pace
  have hcount : (f.count r).events = (n + 1) * f.batchSize := by
    rw [Nat.succ_mul, ← hevents]
    rfl
  have hdue : expectedElapsed f.rate (f.count r).events = due (n + 1) := by
    rw [hcount]
    rfl
  have hclock : ((f.count r).pace f.rate).clock = max r.clock (Duration.ceilMillis (due (n + 1))) := by
    rw [Run.clock_pace, hdue]
    rfl
  obtain ⟨htotals, hcalls⟩ := (f.count r).pace_totals f.rate
  have hevents' : ((f.count r).pace f.rate).events = (n + 1) * f.batchSize :=
    (Run.events_eq_of_totals htotals).trans hcount
  have hbatches' : ((f.count r).pace f.rate).batches = n + 1 :=
    (Run.batches_eq_of_totals htotals).trans (congrArg (· + 1) hbatches)
  have hcounter' : ((f.count r).pace f.rate).counter = ((f.count r).pace f.rate).events := by
    rw [hevents', Run.counter_eq_of_totals htotals]
    exact hcounter
  refine ⟨_, hreach, reaches_end (hr.trans hreach), hcalls, hbatches', hevents', hcounter', hclock, ?_, ?_⟩
  · intro hlate
    have hpace : (f.count r).pace f.rate = f.count r := Run.pace_of_late (hdue.symm ▸ hlate)
    rw [hpace]
    exact ⟨rfl, rfl⟩
  · intro hearly
    have hlead : expectedElapsed f.rate (f.count r).events ≤ r.elapsed + 100 * Duration.nanosPerMilli :=
      (punctual_of_reaches (hr.tail .counted)).lead_le
    rw [hdue] at hlead
    have hle : r.clock ≤ Duration.ceilMillis (due (n + 1)) := by
      by_contra hlt
      have hspec := (Duration.ceilMillis_spec (due (n + 1)) r.clock).1 (Nat.le_of_not_le hlt)
      exact absurd hspec (Nat.not_le.2 hearly)
    refine ⟨hclock.trans (Nat.max_eq_right hle), ?_, by omega⟩
    rw [hevents', ← hcount, ← hdue]
    exact Run.notes_pace_of_early (hdue.symm ▸ hearly)

/-- a client that stalls for 150 ms at its first batch gets the second at once, and then stands at the 200 ms that two
batches are due after -/
theorem stall_is_made_up :
    let f : Flooder := ⟨20, Duration.nanosPerSecond, ⟨true⟩, by decide⟩
    let src : Source := { words := Words.cycle #[7] }
    let w : Writer := { delay := fun n => if n = 2 then 150 else 0 }
    ∃ r r', f.Reaches src w .start ⟨r, .write (.batch 1) []⟩ ∧ r.clock = 150 ∧
      f.Reaches src w ⟨r, .write (.batch 1) []⟩ ⟨r', .beat⟩ ∧ r'.clock = 200 := by
  intro f src w
  have hreach : f.Reaches src w .start (f.steps src w 9 .start) := f.reaches_steps src w 9 .start
  have hstage : (f.steps src w 9 .start).stage = .write (.batch 1) [] := by decide +kernel
  have hclock : (f.steps src w 9 .start).run.clock = 150 := by decide +kernel
  generalize f.steps src w 9 .start = p at hreach hstage hclock
  obtain ⟨r, stage⟩ := p
  obtain rfl : stage = .write (.batch 1) [] := hstage
  obtain ⟨r', hgo, -, -, -, -, -, hmax, -⟩ := (f.flood_paces src w).2.1 1 r hreach
  refine ⟨r, r', hreach, hclock, hgo, ?_⟩
  rw [hmax, show r.clock = 150 from hclock]
  decide

end Flooder

end CallFeed
