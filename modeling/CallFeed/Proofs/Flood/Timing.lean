/-
How far a flood can get in its time.

Only the clock ends a flood, and only waits and the writer's delays move it. But wherever a flood looks at the clock it
is on schedule: the time that the events counted so far should have taken is over. So as long as there is time left they
are fewer than the time and the rate come to, and there is room in the numbers for one more batch.

- `Run.OnSchedule`, `onSchedule_pace`: after waiting a run is on schedule;
- `InTime`, `step_inTime`: what every step of a flood that keeps to the bounds keeps;
- `flood_keeps_time`: such a flood comes to its end, never stops for a fault, and draws less than a batch too much.
-/
import CallFeed.Proofs.Flood.Totals

namespace CallFeed

open CallFeed.Feed

/-- before their time, events are fewer than the time and the rate come to -/
theorem events_lt_of_expectedElapsed {rate events time : Nat} (hr : 0 < rate) (hd : time ≤ maxCount)
    (h : expectedElapsed rate events < time) : events * Duration.nanosPerSecond < time * rate := by
  unfold expectedElapsed at h
  have hlt : events * Duration.nanosPerSecond / rate < time :=
    Nat.lt_of_not_le fun hle => absurd (Nat.le_min.2 ⟨hle, hd⟩) (Nat.not_le.2 h)
  exact (Nat.div_lt_iff_lt_mul hr).1 hlt

namespace Run

/-- the time that the events counted should have taken is over -/
def OnSchedule (rate : Nat) (r : Run) : Prop := expectedElapsed rate r.events ≤ r.elapsed

/-- time goes on, and no event is counted -/
theorem OnSchedule.later {rate : Nat} {r s : Run} (h : r.OnSchedule rate) (he : s.events = r.events)
    (hc : r.clock ≤ s.clock) : s.OnSchedule rate := by
  have hle : r.elapsed ≤ s.elapsed := by
    unfold elapsed
    exact Nat.mul_le_mul_right _ hc
  unfold OnSchedule
  rw [he]
  exact Nat.le_trans h hle

theorem elapsed_wait (r : Run) (millis : Nat) :
    (r.wait millis).elapsed = r.elapsed + millis * Duration.nanosPerMilli := Nat.add_mul _ _ _

theorem le_elapsed_sleep (r : Run) (nanos : Nat) : r.elapsed + nanos ≤ (r.sleep nanos).elapsed := by
  rw [sleep, elapsed_wait]
  exact Nat.add_le_add_left (Duration.le_ceilMillis_mul nanos) _

theorem elapsed_note (r : Run) (n : Note) : (r.note n).elapsed = r.elapsed := by
  unfold elapsed note
  rfl

theorem events_eq_of_totals {r s : Run} (h : r.totals = s.totals) : r.events = s.events := congrArg (·.2.2.1) h

/-- **After waiting a run is on schedule.** -/
theorem onSchedule_pace (rate : Nat) (r : Run) : (r.pace rate).OnSchedule rate := by
  have hevents : (r.pace rate).events = r.events := events_eq_of_totals (pace_totals rate r).1
  unfold OnSchedule
  rw [hevents]
  unfold pace
  split
  · rename_i h
    exact Nat.le_of_sub_eq_zero h
  · have h := le_elapsed_sleep (r.note (.ahead r.events (r.lead rate))) (r.lead rate)
    rw [elapsed_note] at h
    have hlead : expectedElapsed rate r.events ≤ r.elapsed + r.lead rate := by
      unfold lead
      omega
    exact Nat.le_trans hlead h

end Run

namespace Flooder

/-- the bounds that a flood has to keep to: the period of its heartbeats and its duration can be counted, and there are
numbers for the events of its duration -/
structure Bounded (f : Flooder) : Prop where
  rate : f.rate ≤ maxCount / heartbeatSeconds
  duration : f.duration ≤ maxCount
  work : f.duration * f.rate ≤ Duration.nanosPerSecond * (UInt64.size - 1001)

/-- the events numbered, but for the last batch, are fewer than the time and the rate come to -/
def Within (f : Flooder) (r : Run) : Prop :=
  r.counter = 0 ∨ (r.counter - f.batchSize) * Duration.nanosPerSecond < f.duration * f.rate

/-- what holds of a flood that keeps to the bounds wherever it stands -/
def InTime (f : Flooder) (p : Point) : Prop :=
  f.Within p.run ∧
    match p.stage with
    | .write .heartbeat _ => p.run.OnSchedule f.rate
    | .look => p.run.OnSchedule f.rate
    | .beat => p.run.OnSchedule f.rate
    | .ended (.stopped _) => False
    | _ => True

variable {f : Flooder} {src : Source} {w : Writer} {r : Run}

theorem Within.congr {s : Run} (h : f.Within r) (hc : s.counter = r.counter) : f.Within s := by
  unfold Within
  rw [hc]
  exact h

theorem events_lt_of_onSchedule (hb : f.Bounded) (h : r.OnSchedule f.rate) (ht : r.elapsed < f.duration) :
    r.events * Duration.nanosPerSecond < f.duration * f.rate :=
  events_lt_of_expectedElapsed (Nat.lt_of_lt_of_le (by decide) f.rate_ge) hb.duration (Nat.lt_of_le_of_lt h ht)

/-- so there are numbers for one more batch -/
theorem room_of_lt (hb : f.Bounded) {n : Nat} (h : n * Duration.nanosPerSecond < f.duration * f.rate) :
    n + f.batchSize ≤ lastCallId := by
  have hlt : n < UInt64.size - 1001 := by
    have := Nat.lt_of_lt_of_le h hb.work
    rw [Nat.mul_comm] at this
    exact Nat.lt_of_mul_lt_mul_left this
  have hsize : f.batchSize ≤ maxBatchSize := (batchSize_le f.rate).1
  unfold maxBatchSize at hsize
  unfold lastCallId
  omega

theorem counter_eq_events (h : BetweenRounds (f.course src) r) : r.counter = r.events := by
  rw [h.counter, h.events, List.append_nil]

theorem draw_of_room (h : r.counter + f.batchSize ≤ lastCallId) : (f.draw src r).2.2 = none := by
  unfold draw
  rw [Factory.batch_of_room _ _ _ h]

theorem heartbeatDue_ok (hb : f.Bounded) (events : Nat) (fault : Fault) :
    heartbeatDue f.rate events ≠ .error fault := by
  have hle : f.rate * heartbeatSeconds ≤ maxCount :=
    Nat.le_trans (Nat.mul_le_mul_right _ hb.rate) (Nat.div_mul_le_self _ _)
  unfold heartbeatDue
  rw [if_neg (Nat.not_lt.2 hle)]
  exact nofun

/-- **A step keeps in time.** -/
theorem step_inTime (hb : f.Bounded) {p q : Point} (hs : f.Step src w p q) (hc : OnCourse f src p) (h : f.InTime p) :
    f.InTime q := by
  cases hs with
  | @call r q rest hne hok =>
    refine ⟨h.1.congr rfl, ?_⟩
    cases q with
    | heartbeat => exact h.2.later rfl (Nat.le_add_right r.clock _)
    | batch n => trivial
  | fail hne he => exact ⟨h.1.congr rfl, trivial⟩
  | @beaten r => exact ⟨h.1.congr rfl, h.2.later rfl (Nat.le_refl r.clock)⟩
  | counted => exact ⟨h.1.congr rfl, trivial⟩
  | close ht => exact ⟨h.1, trivial⟩
  | @draw r r' text ht hd =>
    obtain ⟨-, rfl⟩ := draw_eq hd
    have hlt := events_lt_of_onSchedule hb h.2 ht
    refine ⟨Or.inr ?_, trivial⟩
    rw [← counter_eq_events hc.2] at hlt
    rwa [Nat.add_sub_cancel]
  | @spent r r' text fault ht hd =>
    have hlt := events_lt_of_onSchedule hb h.2 ht
    rw [← counter_eq_events hc.2] at hlt
    have hnone : (f.draw src r).2.2 = none := draw_of_room (room_of_lt hb hlt)
    rw [hd] at hnone
    cases hnone
  | @pace r =>
    exact ⟨h.1.congr (Run.counter_eq_of_totals (r.pace_totals f.rate).1), r.onSchedule_pace f.rate⟩
  | skip hd => exact h
  | @beat r hd => exact ⟨h.1.congr rfl, h.2.later rfl (Nat.le_refl r.clock)⟩
  | unknown hd => exact absurd hd (heartbeatDue_ok hb _ _)
  | flush =>
    unfold Run.finish Finish.point
    refine ⟨h.1.congr rfl, ?_⟩
    cases w.flushError with
    | none => trivial
    | some e => trivial

theorem inTime_of_reaches (hb : f.Bounded) {p : Point} (h : f.Reaches src w .start p) :
    OnCourse f src p ∧ f.InTime p := by
  refine ⟨onCourse_of_reaches h, Reaches.keeps_from_start ⟨Or.inl rfl, ?_⟩
    (fun _ _ hp hs ht => step_inTime hb hs (onCourse_of_reaches hp) ht) h⟩
  show expectedElapsed f.rate 0 ≤ 0
  rw [expectedElapsed, Nat.zero_mul, Nat.zero_div, Nat.zero_min]

/-- what a run has numbered is whole batches: those counted and at most one more -/
structure Numbered (f : Flooder) (r : Run) (n : Nat) : Prop where
  counter : r.counter = n * f.batchSize
  batches : n = r.batches ∨ n = r.batches + 1
  events : r.events = r.batches * f.batchSize
  sent : eventCount (lines r.sent) ≤ r.counter

theorem numbered_of_whole {ps : List Portion} (h : Accounts (f.course src) ps [] [] r) : f.Numbered r r.batches := by
  have hcounter : r.counter = r.batches * f.batchSize := by
    rw [h.counter, h.batches, List.append_nil]
    rfl
  have hevents : r.events = r.batches * f.batchSize := by
    rw [h.events, h.batches]
    rfl
  refine ⟨hcounter, Or.inl rfl, hevents, ?_⟩
  rw [h.lines_sent.1, hevents, hcounter]

theorem numbered_of_part {ps : List Portion} {p : Portion} {rest : Octets}
    (h : Accounts (f.course src) ps [p] rest r) : ∃ n, f.Numbered r n := by
  have hevents : r.events = r.batches * f.batchSize := by
    rw [h.events, h.batches]
    rfl
  have hsize : 0 < (f.course src).size := f.batchSize_pos
  have hle := h.eventCount_le hsize
  have hcounter : r.counter = (r.batches + batchCount [p]) * f.batchSize := by
    rw [h.counter, h.batches, batchCount_append]
    rfl
  cases p with
  | heartbeat => exact ⟨_, hcounter, Or.inl rfl, hevents, hle⟩
  | batch n => exact ⟨_, hcounter, Or.inr rfl, hevents, hle⟩

theorem numbered_of_onCourse {p : Point} (h : OnCourse f src p) (hn : ∀ fault, p.stage ≠ .ended (.stopped fault)) :
    ∃ n, f.Numbered p.run n := by
  rcases accounts_of_onCourse h with ⟨ps, -, -, hacc⟩ | ⟨ps, q, rest, -, hacc⟩ | ⟨fault, -, hs, -⟩
  · exact ⟨_, numbered_of_whole hacc⟩
  · exact numbered_of_part hacc
  · exact absurd hs (hn fault)

theorem not_stopped_of_inTime {p : Point} (h : f.InTime p) (fault : Fault) : p.stage ≠ .ended (.stopped fault) := by
  obtain ⟨r, stage⟩ := p
  rintro rfl
  exact h.2

/-- a flood that keeps to the bounds comes to its end, and not for a fault -/
theorem exists_ok_of_bounded (hb : f.Bounded) : ∃ o, (f.flood src w).outcome = .ok o :=
  Finish.exists_ok_of_not_stopped fun fault he =>
    not_stopped_of_inTime (inTime_of_reaches hb (f.reaches_flood src w)).2 fault (congrArg Stage.ended he)

theorem events_le_counter {n : Nat} (h : f.Numbered r n) : r.events ≤ r.counter := by
  rw [h.events, h.counter]
  have := h.batches
  exact Nat.mul_le_mul_right _ (by omega)

namespace Within

variable (h : f.Within r)

include h

theorem batches_lt {n : Nat} (hn : r.counter = n * f.batchSize) :
    n = 0 ∨ (n - 1) * f.batchSize * Duration.nanosPerSecond < f.duration * f.rate := by
  rcases h with hzero | hlt
  · rw [hn] at hzero
    exact Or.inl ((Nat.mul_eq_zero.1 hzero).resolve_right (Nat.ne_of_gt f.batchSize_pos))
  · rw [hn, ← Nat.sub_one_mul] at hlt
    exact Or.inr hlt

/-- what is not more than the events numbered is less than a batch beyond what the time and the rate come to -/
theorem lt_of_le_counter {k : Nat} (hk : k ≤ r.counter) :
    k * Duration.nanosPerSecond < f.duration * f.rate + f.batchSize * Duration.nanosPerSecond := by
  have hbatch : 0 < f.batchSize * Duration.nanosPerSecond := Nat.mul_pos f.batchSize_pos (by decide)
  rcases h with hzero | hlt
  · rw [hzero, Nat.le_zero] at hk
    rw [hk, Nat.zero_mul]
    exact Nat.lt_add_left _ hbatch
  · calc k * Duration.nanosPerSecond
        ≤ (r.counter - f.batchSize + f.batchSize) * Duration.nanosPerSecond := Nat.mul_le_mul_right _ (by omega)
      _ = (r.counter - f.batchSize) * Duration.nanosPerSecond + f.batchSize * Duration.nanosPerSecond :=
          Nat.add_mul _ _ _
      _ < f.duration * f.rate + f.batchSize * Duration.nanosPerSecond := Nat.add_lt_add_right hlt _

theorem counter_le (hb : f.Bounded) : r.counter ≤ lastCallId := by
  rcases h with hzero | hlt
  · rw [hzero]
    exact Nat.zero_le _
  · have := room_of_lt hb hlt
    omega

end Within

/-- from wherever a flood comes to, it goes on to its end -/
theorem reaches_end {p : Point} (h : f.Reaches src w .start p) : f.Reaches src w p (f.flood src w).point := by
  rcases h.total_of_right_unique step_rightUnique (f.reaches_flood src w) with hs | hs
  · exact hs
  · rcases hs.cases_head with heq | ⟨q, hq, -⟩
    · rw [heq]
    · exact absurd hq (not_step_ended q)

/-- **A flood that keeps to the bounds comes to its end**, and not for a fault, whatever its words and its writer. At
every point of it the events drawn, but for the last batch, are fewer than the time and the rate come to. So the client
never has a batch more than is due to it, and neither the numbers nor the events counted run out. -/
theorem flood_keeps_time (f : Flooder) (src : Source) (w : Writer) (hrate : f.rate ≤ maxCount / heartbeatSeconds)
    (hduration : f.duration ≤ maxCount)
    (hwork : f.duration * f.rate ≤ Duration.nanosPerSecond * (UInt64.size - 1001)) :
    (∃ o, (f.flood src w).outcome = .ok o) ∧
    ∀ p, f.Reaches src w .start p → f.Reaches src w p (f.flood src w).point ∧
      (∃ n, p.run.counter = n * f.batchSize ∧ (n = p.run.batches ∨ n = p.run.batches + 1) ∧
        (n = 0 ∨ (n - 1) * f.batchSize * Duration.nanosPerSecond < f.duration * f.rate)) ∧
      eventCount (lines p.run.sent) * Duration.nanosPerSecond <
        f.duration * f.rate + f.batchSize * Duration.nanosPerSecond ∧
      p.run.events ≤ p.run.counter ∧ p.run.counter ≤ lastCallId := by
  have hb : f.Bounded := ⟨hrate, hduration, hwork⟩
  constructor
  · exact exists_ok_of_bounded hb
  · intro p hp
    obtain ⟨hc, ht⟩ := inTime_of_reaches hb hp
    obtain ⟨n, hn⟩ := numbered_of_onCourse hc (not_stopped_of_inTime ht)
    exact ⟨reaches_end hp, ⟨n, hn.counter, hn.batches, ht.1.batches_lt hn.counter⟩, ht.1.lt_of_le_counter hn.sent,
      events_le_counter hn, ht.1.counter_le hb⟩

/-- the highest rate, for as many seconds as there are numbers for, to a writer that takes one octet at a time -/
theorem highest_rate_keeps_time :
    let f : Flooder := ⟨maxCount / heartbeatSeconds, 14 * Duration.nanosPerSecond, ⟨false⟩, by decide⟩
    let src : Source := { words := Words.seeded 7 }
    let w : Writer := { limit := some 1, delay := fun n => n % 2, notReady := fun n => n % 3 }
    (∃ o, (f.flood src w).outcome = .ok o) ∧ (f.flood src w).run.counter ≤ lastCallId := by
  intro f src w
  have h := f.flood_keeps_time src w (by decide) (by decide) (by decide)
  exact ⟨h.1, (h.2 _ (f.reaches_flood src w)).2.2.2.2⟩

end Flooder

end CallFeed
