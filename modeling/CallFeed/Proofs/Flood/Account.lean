/-
The log of a flood as an account of its time and of its heartbeats.

Time goes by while the writer answers a call and while the flood waits for its schedule, and nowhere else. Every wait is
logged before it begins, with the time it asks for, and every heartbeat but the first is logged before it is written. So
the log and the writer's delays add up to the time of the flood, and the log has one line more of heartbeats than were
counted only where the write of one failed.

- `Run.TimeKept`, `step_timeKept`: the clock against the calls and the waits noted;
- `Waited`: the waits noted are those of the batches written before their time;
- `BeatsCounted`, `step_beatsCounted`: the heartbeats counted against those noted;
- `log_accounts_for_flood`: the whole of it, read back from the lines of the log.
-/
import Mathlib.Algebra.GroupWithZero.Nat
import CallFeed.Proofs.Flood.Failure
import CallFeed.Proofs.Flood.Notes

namespace CallFeed

open CallFeed.Feed

theorem sum_map_snoc {α : Type} (g : α → Nat) (l : List α) (a : α) :
    ((l ++ [a]).map g).sum = (l.map g).sum + g a := by
  rw [List.map_append, List.sum_append, List.map_singleton, List.sum_singleton]

namespace Run

/-! ## Time -/

/-- the milliseconds of the waits noted -/
def waited (r : Run) : Nat := (r.waits.map fun x => Duration.ceilMillis x.2).sum

/-- the milliseconds that the calls took -/
def delayed (w : Writer) (r : Run) : Nat := ((List.range r.calls.size).map fun i => w.delay (i + 1)).sum

/-- all time went by in calls and in waits that were noted -/
def TimeKept (w : Writer) (r : Run) : Prop := r.clock = r.delayed w + r.waited

variable {r s : Run} {w : Writer}

theorem TimeKept.congr (h : r.TimeKept w) (hclock : s.clock = r.clock) (hcalls : s.calls = r.calls)
    (hnotes : s.notes = r.notes) : s.TimeKept w := by
  unfold TimeKept waited delayed
  rw [hclock, hcalls, waits_congr hnotes]
  exact h

/-- a call takes its delay -/
theorem TimeKept.record (h : r.TimeKept w) (offered : Octets) : (r.record (r.nextCall w offered)).TimeKept w := by
  have hdelayed : (r.record (r.nextCall w offered)).delayed w = r.delayed w + w.delay (r.calls.size + 1) := by
    rw [delayed, calls_record, Array.size_push, List.range_succ, sum_map_snoc, delayed]
  have hwaited : (r.record (r.nextCall w offered)).waited = r.waited := by
    rw [waited, waits_congr (notes_record _ _), waited]
  have hclock : (r.record (r.nextCall w offered)).clock = r.clock + w.delay (r.calls.size + 1) := rfl
  unfold TimeKept at h ⊢
  rw [hclock, hdelayed, hwaited, h]
  omega

/-- a wait goes on from a whole millisecond, so it is rounded up as it stands -/
theorem max_clock_add (r : Run) (sleep : Nat) :
    max r.clock (Duration.ceilMillis (r.elapsed + sleep)) = r.clock + Duration.ceilMillis sleep := by
  have hceil : Duration.ceilMillis (r.elapsed + sleep) = r.clock + Duration.ceilMillis sleep := by
    unfold elapsed
    rw [Nat.add_comm, Duration.ceilMillis_add_mul, Nat.add_comm]
  rw [hceil]
  exact Nat.max_eq_right (Nat.le_add_right _ _)

/-- one more wait is so much more time waited -/
theorem waited_of_waits {events sleep : Nat} (h : s.waits = r.waits ++ [(events, sleep)]) :
    s.waited = r.waited + Duration.ceilMillis sleep := by
  rw [waited, h, sum_map_snoc, waited]

/-- a wait takes what is noted of it -/
theorem TimeKept.pace (h : r.TimeKept w) (rate : Nat) : (r.pace rate).TimeKept w := by
  by_cases hlate : expectedElapsed rate r.events ≤ r.elapsed
  · rw [pace_of_late hlate]
    exact h
  · have hearly := Nat.lt_of_not_le hlate
    have hdelayed : (r.pace rate).delayed w = r.delayed w := by
      unfold delayed
      rw [(r.pace_totals rate).2]
    have hdue := Nat.add_sub_of_le (Nat.le_of_lt hearly)
    have hwaited := waited_of_waits (waits_pace_of_early hearly)
    generalize expectedElapsed rate r.events - r.elapsed = sleep at hdue hwaited
    unfold TimeKept at h ⊢
    rw [clock_pace, ← hdue, max_clock_add, hdelayed, hwaited, h]
    omega

end Run

namespace Flooder

variable {f : Flooder} {src : Source} {w : Writer}

/-- **A step keeps account of the time.** -/
theorem step_timeKept {p q : Point} (hs : f.Step src w p q) (h : p.run.TimeKept w) : q.run.TimeKept w := by
  cases hs with
  | call hne hok => exact h.record _
  | fail hne he => exact h.record _
  | draw ht hd =>
    obtain ⟨-, rfl⟩ := draw_eq hd
    exact h.congr rfl rfl rfl
  | spent ht hd =>
    obtain ⟨counter, pos, rfl⟩ := run_of_draw hd
    exact h.congr rfl rfl rfl
  | pace => exact h.pace f.rate
  | @beat r hb =>
    unfold Run.TimeKept Run.waited
    rw [r.waits_note_heartbeat]
    exact h
  | _ => exact h.congr rfl rfl rfl

theorem timeKept_of_reaches {p : Point} (h : f.Reaches src w .start p) : p.run.TimeKept w :=
  h.keeps (P := fun p => p.run.TimeKept w) (fun _ _ hs ht => step_timeKept hs ht) rfl

/-! ## Waits -/

/-- a wait comes after a batch that was written -/
theorem exists_written_of_pace {r : Run} (h : f.Reaches src w .start ⟨r, .pace⟩) :
    ∃ n r₀, f.Reaches src w .start ⟨r₀, .write (.batch n) []⟩ ∧ r = f.count r₀ := by
  rcases h.cases_tail with hstart | ⟨p, hp, hs⟩
  · cases hstart
  · generalize hq : (⟨r, .pace⟩ : Point) = q at hs
    cases hs with
    | @counted r₀ n =>
      obtain rfl := (Point.mk.inj hq).1
      exact ⟨n, r₀, hp, rfl⟩
    | flush =>
      have hstage := (Point.mk.inj hq).2
      cases hstage
    | _ => cases hq

/-- what a wait says of the batch before it: it was written, and before its time -/
def Waited (f : Flooder) (src : Source) (w : Writer) (events sleep : Nat) : Prop :=
  ∃ n r, f.Reaches src w .start ⟨r, .write (.batch n) []⟩ ∧ events = (n + 1) * f.batchSize ∧
    r.elapsed < expectedElapsed f.rate events ∧ sleep = expectedElapsed f.rate events - r.elapsed

theorem events_count_of_reaches {n : Nat} {r : Run} (h : f.Reaches src w .start ⟨r, .write (.batch n) []⟩) :
    (f.count r).events = (n + 1) * f.batchSize := by
  have hevents := (totals_of_batch (onCourse_of_reaches h)).2.1
  rw [Nat.succ_mul, ← hevents]
  rfl

/-- every wait noted is one of a batch written before its time -/
theorem waited_of_note {p : Point} (h : f.Reaches src w .start p) {events sleep : Nat}
    (hn : .ahead events sleep ∈ p.run.notes) : f.Waited src w events sleep := by
  induction h with
  | refl => exact absurd hn (Array.not_mem_empty _)
  | @tail p q hp hs ih =>
    rcases step_notes hs with heq | ⟨r, rfl, hearly, heq⟩ | ⟨r, rfl, -, heq⟩
    · exact ih (heq ▸ hn)
    · rcases Array.mem_push.1 (heq ▸ hn) with hold | hnew
      · exact ih hold
      · obtain ⟨n, r₀, hwritten, rfl⟩ := exists_written_of_pace hp
        obtain ⟨rfl, rfl⟩ := Note.ahead.inj hnew
        exact ⟨n, r₀, hwritten, events_count_of_reaches hwritten, hearly, rfl⟩
    · rcases Array.mem_push.1 (heq ▸ hn) with hold | hnew
      · exact ih hold
      · cases hnew

/-- and every such batch has its wait noted -/
theorem note_of_waited {events sleep : Nat} (h : f.Waited src w events sleep) :
    .ahead events sleep ∈ (f.flood src w).run.notes := by
  obtain ⟨n, r, hwritten, rfl, hearly, rfl⟩ := h
  have hevents := events_count_of_reaches hwritten
  have hgo : f.Reaches src w .start ⟨(f.count r).pace f.rate, .beat⟩ := (hwritten.tail .counted).tail .pace
  have hbefore : (f.count r).elapsed < expectedElapsed f.rate (f.count r).events := by
    rw [hevents]
    exact hearly
  have hnotes := Run.notes_pace_of_early hbefore
  rw [hevents] at hnotes
  refine mem_notes_of_reaches (reaches_end hgo) ?_
  show _ ∈ ((f.count r).pace f.rate).notes
  rw [hnotes]
  exact Array.mem_push_self

/-! ## Heartbeats -/

/-- the heartbeats counted against those noted: the first is not noted, and one that is being written is not counted -/
def BeatsCounted (p : Point) : Prop :=
  match p.stage with
  | .write .heartbeat _ => p.run.heartbeats = p.run.beats.length
  | .ended (.broken _) => p.run.flushed = true → p.run.heartbeats = p.run.beats.length + 1
  | .ended (.stopped _) => True
  | _ => p.run.heartbeats = p.run.beats.length + 1

theorem heartbeats_eq_of_totals {r s : Run} (h : r.totals = s.totals) : r.heartbeats = s.heartbeats :=
  congrArg (·.2.2.2.2) h

/-- **A step counts the heartbeats it writes and notes those it is about to write.** -/
theorem step_beatsCounted {p q : Point} (hs : f.Step src w p q) (hc : OnCourse f src p) (h : BeatsCounted p) :
    BeatsCounted q := by
  cases hs with
  | @call r q rest hne hok =>
    cases q with
    | heartbeat => exact h
    | batch n => exact h
  | @fail r q rest e hne he =>
    intro hf
    exact absurd (hc.1.symm.trans hf) nofun
  | beaten => exact congrArg (· + 1) h
  | counted => exact h
  | close ht => exact h
  | draw ht hd =>
    obtain ⟨-, rfl⟩ := draw_eq hd
    exact h
  | spent ht hd => trivial
  | @pace r =>
    show (r.pace f.rate).heartbeats = (r.pace f.rate).beats.length + 1
    rw [r.beats_pace, heartbeats_eq_of_totals (r.pace_totals f.rate).1]
    exact h
  | skip hb => exact h
  | @beat r hb =>
    show r.heartbeats = (r.note (.heartbeat r.events)).beats.length
    rw [Run.beats_push_heartbeat rfl, List.length_append]
    exact h
  | unknown hb => trivial
  | @flush r =>
    unfold Run.finish Finish.point
    cases w.flushError with
    | none => exact h
    | some e => exact fun _ => h

theorem beatsCounted_of_reaches {p : Point} (h : f.Reaches src w .start p) : BeatsCounted p :=
  h.keeps_from_start (show (0 : Nat) = 0 from rfl)
    fun _ _ hp hs hb => step_beatsCounted hs (onCourse_of_reaches hp) hb

/-- the flood ends with a call that fails while it writes the portion -/
def FailsIn (f : Flooder) (src : Source) (w : Writer) (p : Portion) : Prop :=
  ∃ r rest, f.Reaches src w .start ⟨r, .write p rest⟩ ∧ rest ≠ [] ∧ (r.nextCall w rest).fatal? ≠ none

/-- then its run stands where that call was made -/
theorem FailsIn.run_eq {p : Portion} (h : f.FailsIn src w p) :
    ∃ r rest, f.Reaches src w .start ⟨r, .write p rest⟩ ∧ (f.flood src w).run = r.record (r.nextCall w rest) := by
  obtain ⟨r, rest, hr, hne, hfatal⟩ := h
  obtain ⟨e, he⟩ := Option.ne_none_iff_exists'.1 hfatal
  have heq := eq_of_reaches_ended (f.reaches_flood src w) (hr.tail (.fail hne he))
  exact ⟨r, rest, hr, (Point.mk.inj heq).1⟩

theorem FailsIn.beats_of_heartbeat (h : f.FailsIn src w .heartbeat) :
    (f.flood src w).run.beats.length = (f.flood src w).run.heartbeats := by
  obtain ⟨r, rest, hr, heq⟩ := h.run_eq
  have hcounted : r.heartbeats = r.beats.length := beatsCounted_of_reaches hr
  rw [heq, Run.beats_congr (Run.notes_record _ _), ← hcounted]
  rfl

theorem FailsIn.beats_of_batch {n : Nat} (h : f.FailsIn src w (.batch n)) :
    (f.flood src w).run.beats.length + 1 = (f.flood src w).run.heartbeats := by
  obtain ⟨r, rest, hr, heq⟩ := h.run_eq
  have hcounted : r.heartbeats = r.beats.length + 1 := beatsCounted_of_reaches hr
  rw [heq, Run.beats_congr (Run.notes_record _ _), ← hcounted]
  rfl

/-- a flood that comes out with a summary was flushed, or a call failed in a portion -/
theorem flushed_or_failsIn {o : Outcome} (h : (f.flood src w).outcome = .ok o) :
    (f.flood src w).run.flushed = true ∨ ∃ p, f.FailsIn src w p := by
  obtain ⟨e, -, ⟨r, -, -, -, hrun⟩ | ⟨e', -, r, p, rest, hr, hne, -, -, he, -⟩⟩ := outcome_of_ok h
  · exact Or.inl (by rw [hrun])
  · exact Or.inr ⟨p, r, rest, hr, hne, by rw [he]; exact nofun⟩

theorem flushed_of_completed {s : Summary} (h : (f.flood src w).outcome = .ok (.completed s)) :
    (f.flood src w).run.flushed = true := by
  rcases f.ends_between_or_within src w (Finish.not_stopped_of_ok h) with ⟨hf, -⟩ | ⟨-, hne, -⟩
  · exact hf
  · exact absurd (Finish.ending_of_completed h) hne

/-- where flushing was tried, all heartbeats noted were counted -/
theorem beats_of_flushed {o : Outcome} (h : (f.flood src w).outcome = .ok o)
    (hf : (f.flood src w).run.flushed = true) :
    (f.flood src w).run.beats.length + 1 = (f.flood src w).run.heartbeats := by
  have hcounted := beatsCounted_of_reaches (f.reaches_flood src w)
  unfold BeatsCounted Finish.point at hcounted
  cases he : (f.flood src w).ending with
  | completed =>
    rw [he] at hcounted
    exact hcounted.symm
  | broken e =>
    rw [he] at hcounted
    exact (hcounted hf).symm
  | stopped fault => exact absurd he (Finish.not_stopped_of_ok h fault)

/-- what was noted by a flood that was not stopped is of all the batches counted -/
theorem notedTo_flood (hn : ∀ fault, (f.flood src w).ending ≠ .stopped fault) :
    f.NotedTo (f.flood src w).run.batches (f.flood src w).run.batches (f.flood src w).run := by
  have hnoted := noted_of_reaches (f.reaches_flood src w)
  unfold Noted Finish.point at hnoted
  cases he : (f.flood src w).ending with
  | completed =>
    rw [he] at hnoted
    exact hnoted
  | broken e =>
    rw [he] at hnoted
    exact hnoted
  | stopped fault => exact absurd he (hn fault)

/-- **The log accounts for a flood's time and its heartbeats.** Where a flood comes out with a summary, its time is that
of all its calls and of the waits that its log announces, each rounded up to a whole millisecond. A wait is announced
exactly after each batch whose write ended before its time, for just the time that was left, so at most once for a batch
and in order. A heartbeat is announced exactly after as many events as are whole batches and whole periods. So all the
heartbeats counted but the first are announced, and where the write of one failed, that one too. -/
theorem log_accounts_for_flood (f : Flooder) (src : Source) (w : Writer) {s : Summary}
    (h : (f.flood src w).outcome = .ok (.completed s) ∨ (f.flood src w).outcome = .ok (.disconnected s)) :
    let run := (f.flood src w).run
    let log := run.notes.toList.map Note.line
    let waits := log.filterMap LogLine.wait?
    let beats := log.filterMap LogLine.beat?
    s.elapsed = (((List.range run.calls.size).map fun i => w.delay (i + 1)).sum +
      (waits.map fun x => Duration.ceilMillis x.2).sum) * Duration.nanosPerMilli ∧
    (∀ events sleep, (events, sleep) ∈ waits ↔ ∃ n r, f.Reaches src w .start ⟨r, .write (.batch n) []⟩ ∧
      events = (n + 1) * f.batchSize ∧ r.elapsed < expectedElapsed f.rate events ∧
      sleep = expectedElapsed f.rate events - r.elapsed) ∧
    ((waits.map Prod.fst).Pairwise (· < ·) ∧ waits.length ≤ s.batches ∧
      ∀ x ∈ waits, x.1 ≤ s.events ∧ f.batchSize ∣ x.1) ∧
    (beats.Pairwise (· < ·) ∧ ∀ events, events ∈ beats ↔
      0 < events ∧ events ≤ s.events ∧ f.batchSize ∣ events ∧ f.rate * heartbeatSeconds ∣ events) ∧
    ((f.flood src w).outcome = .ok (.completed s) → run.flushed = true) ∧
    (run.flushed = true → beats.length + 1 = s.heartbeats) ∧
    (run.flushed = true ∨ ∃ p, f.FailsIn src w p) ∧
    (f.FailsIn src w .heartbeat → beats.length = s.heartbeats) ∧
    ∀ n, f.FailsIn src w (.batch n) → beats.length + 1 = s.heartbeats := by
  intro run log waits beats
  obtain ⟨o, ho⟩ : ∃ o, (f.flood src w).outcome = .ok o := h.elim (fun h => ⟨_, h⟩) (fun h => ⟨_, h⟩)
  have hstopped := Finish.not_stopped_of_ok ho
  obtain rfl := Finish.eq_summary h
  have hwaits : waits = run.waits := run.waits_eq
  have hbeats : beats = run.beats := run.beats_eq
  have hnoted : f.NotedTo run.batches run.batches run := notedTo_flood hstopped
  have hevents : run.events = run.batches * f.batchSize :=
    events_of_onCourse (f.onCourse_flood src w) fun fault he => hstopped fault (Stage.ended.inj he)
  have hmem (events : Nat) : events ∈ multiples f.batchSize run.batches ↔
      0 < events ∧ events ≤ run.events ∧ f.batchSize ∣ events := by
    rw [hevents]
    exact mem_multiples_iff f.batchSize_pos
  have hordered := pairwise_multiples f.batchSize_pos run.batches
  rw [hwaits, hbeats]
  refine ⟨?_, fun events sleep => ?_, ⟨hordered.sublist hnoted.waits, ?_, fun x hx => ?_⟩, ⟨?_, fun events => ?_⟩,
    fun hc => ?_, beats_of_flushed ho, flushed_or_failsIn ho, FailsIn.beats_of_heartbeat, fun n => FailsIn.beats_of_batch⟩
  · have hclock : run.clock = run.delayed w + run.waited := timeKept_of_reaches (f.reaches_flood src w)
    exact congrArg (· * Duration.nanosPerMilli) hclock
  · have hnote : (events, sleep) ∈ run.waits ↔ .ahead events sleep ∈ run.notes := run.mem_waits_iff
    rw [hnote]
    exact ⟨waited_of_note (f.reaches_flood src w), note_of_waited⟩
  · have hlength := hnoted.waits.length_le
    rwa [List.length_map, multiples, List.length_map, List.length_range] at hlength
  · exact ((hmem x.1).1 (hnoted.waits.subset (List.mem_map_of_mem hx))).2
  · rw [hnoted.beats]
    exact hordered.filter _
  · rw [hnoted.beats, List.mem_filter, hmem, marked, beq_iff_eq, ← Nat.dvd_iff_mod_eq_zero, and_assoc, and_assoc]
    exact Iff.rfl
  · exact flushed_of_completed hc

/-- calls that take longer and longer, the fifth of which fails: of 163 ms the log has the 58 ms of a wait -/
theorem slow_writer_accounts :
    let f : Flooder := ⟨20, Duration.nanosPerSecond, ⟨true⟩, by decide⟩
    let src : Source := { words := Words.cycle #[7] }
    let w : Writer := { limit := some 300, delay := fun n => 7 * n, setbacks := [(5, .error (.ofKind .brokenPipe))] }
    let log := (f.flood src w).run.notes.toList.map Note.line
    (f.flood src w).outcome = .ok (.disconnected ⟨2, 1, 1, 163000000⟩) ∧
      log = [⟨.trace, "Ahead of schedule, sleeping [events=2, sleep=58ms]".toList⟩] ∧
      163000000 = (((List.range (f.flood src w).run.calls.size).map fun i => w.delay (i + 1)).sum +
        ((log.filterMap LogLine.wait?).map fun x => Duration.ceilMillis x.2).sum) * Duration.nanosPerMilli := by
  intro f src w log
  have h : (f.flood src w).outcome = .ok (.disconnected ⟨2, 1, 1, 163000000⟩) :=
    f.outcome_of_steps src w (n := 11) (by decide +kernel)
  have hlog : log = [⟨.trace, "Ahead of schedule, sleeping [events=2, sleep=58ms]".toList⟩] :=
    f.value_of_steps src w (fun d => d.run.notes.toList.map Note.line) (n := 11) (by decide +kernel)
  exact ⟨h, hlog, (f.log_accounts_for_flood src w (.inr h)).1⟩

end Flooder

end CallFeed
