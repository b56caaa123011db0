/-
The cadence of the heartbeats.

A heartbeat is due when the events so far are a multiple of the period, fifteen seconds' worth, but they are only looked
at between batches. So the cadence is not the period but the least number of events that is whole periods and whole
batches. Where batches do not divide the period, every heartbeat at a period's end but the first common one is missed.

- `Course.beats_iff`: a heartbeat follows a batch exactly after whole strides of batches;
- `Course.marks_order`: where the heartbeats of an order stand, and how many events come before each;
- `heartbeats_keep_cadence`: both for a flood that ran its time, with the time from one heartbeat to the next.
-/
import Mathlib.Data.Nat.GCD.Basic
import CallFeed.Proofs.Feed.Reading
import CallFeed.Proofs.Flood.Prompt
import CallFeed.Proofs.Flood.Totals

namespace CallFeed

namespace Feed

/-- how many complete events come before each of the complete heartbeats -/
def eventsBefore (s : Octets) : List Nat := (heartbeatPlaces s).map fun i => eventCount ((lines s).take i)

/-! ## Places among lines -/

/-- the places of the heartbeats among lines -/
def places (ls : List Octets) : List Nat := (ls.zipIdx.filter fun l => l.1 == utf8 heartbeat).map Prod.snd

theorem places_append (ls ls' : List Octets) :
    places (ls ++ ls') = places ls ++ (places ls').map (ls.length + ·) := by
  have hshift : ls'.zipIdx (0 + ls.length) = ls'.zipIdx.map fun l => (l.1, ls.length + l.2) := by
    rw [Nat.zero_add, List.zipIdx_eq_map_add]
  rw [places, List.zipIdx_append, List.filter_append, List.map_append, hshift, List.filter_map, List.map_map]
  unfold places
  rw [List.map_map]
  rfl

theorem lt_of_mem_places {ls : List Octets} {i : Nat} (h : i ∈ places ls) : i < ls.length := by
  obtain ⟨l, hl, rfl⟩ := List.mem_map.1 h
  exact List.snd_lt_of_mem_zipIdx (List.mem_filter.1 hl).1

/-- the places of the heartbeats among lines, each with the events before it -/
def marks (ls : List Octets) : List (Nat × Nat) := (places ls).map fun i => (i, eventCount (ls.take i))

theorem marks_append (ls ls' : List Octets) : marks (ls ++ ls') =
    marks ls ++ (marks ls').map fun p => (ls.length + p.1, eventCount ls + p.2) := by
  unfold marks
  rw [places_append, List.map_append, List.map_map, List.map_map]
  congr 1
  · refine List.map_congr_left fun i hi => ?_
    rw [List.take_append_of_le_length (Nat.le_of_lt (lt_of_mem_places hi))]
  · refine List.map_congr_left fun i _ => ?_
    show (ls.length + i, eventCount ((ls ++ ls').take (ls.length + i))) = _
    rw [List.take_length_add_append, eventCount_append]
    rfl

theorem marks_of_not_mem {ls : List Octets} (h : utf8 heartbeat ∉ ls) : marks ls = [] := by
  have hnone : places ls = [] := by
    rw [places, List.map_eq_nil_iff, List.filter_eq_nil_iff]
    intro l hl hbeat
    exact h (eq_of_beq hbeat ▸ List.fst_mem_of_mem_zipIdx hl)
  rw [marks, hnone, List.map_nil]

theorem marks_heartbeat : marks [utf8 heartbeat] = [(0, 0)] := by decide

/-! ## Strides -/

namespace Course

variable (c : Course)

/-- a period's worth of events -/
def period : Nat := c.rate * heartbeatSeconds

/-- batches from one heartbeat to the next -/
def stride : Nat := c.period / Nat.gcd c.size c.period

/-- events from one heartbeat to the next -/
def cadence : Nat := Nat.lcm c.size c.period

theorem cadence_eq : c.cadence = c.stride * c.size := by
  rw [cadence, Nat.lcm_eq_mul_div, Nat.mul_div_assoc _ (Nat.gcd_dvd_right _ _), Nat.mul_comm]
  rfl

/-- **A heartbeat follows a batch exactly after whole strides.** -/
theorem beats_iff (hs : 0 < c.size) (n : Nat) : c.Beats n ↔ c.stride ∣ n + 1 := by
  have hperiod : c.Beats n ↔ c.period ∣ (n + 1) * c.size := (Nat.dvd_iff_mod_eq_zero).symm
  have hbatch : c.size ∣ (n + 1) * c.size := Nat.dvd_mul_left _ _
  calc c.Beats n ↔ c.size ∣ (n + 1) * c.size ∧ c.period ∣ (n + 1) * c.size := by
        rw [hperiod, and_iff_right hbatch]
    _ ↔ c.cadence ∣ (n + 1) * c.size := Nat.lcm_dvd_iff.symm
    _ ↔ c.stride ∣ n + 1 := by rw [cadence_eq, Nat.mul_dvd_mul_iff_right hs]

/-- seconds of the schedule from one heartbeat to the next -/
def gap : Nat := heartbeatSeconds * c.size / Nat.gcd c.size c.period

theorem gcd_pos (hs : 0 < c.size) : 0 < Nat.gcd c.size c.period := Nat.gcd_pos_of_pos_left _ hs

theorem cadence_eq_gap : c.cadence = c.gap * c.rate := by
  have hdvd := Nat.gcd_dvd_left c.size c.period
  calc c.cadence = c.size / Nat.gcd c.size c.period * c.period := by
        rw [cadence, Nat.lcm_eq_mul_div, Nat.mul_comm, Nat.mul_div_assoc _ hdvd, Nat.mul_comm]
    _ = heartbeatSeconds * (c.size / Nat.gcd c.size c.period) * c.rate := by
        rw [Nat.mul_comm heartbeatSeconds, Nat.mul_assoc, Nat.mul_comm heartbeatSeconds]
        rfl
    _ = c.gap * c.rate := by rw [gap, Nat.mul_div_assoc _ hdvd]

/-- where batches divide the period, heartbeats are a period apart -/
theorem gap_of_dvd (hs : 0 < c.size) (h : c.size ∣ c.period) : c.gap = heartbeatSeconds ∧ c.cadence = c.period := by
  refine ⟨?_, Nat.lcm_eq_right h⟩
  rw [gap, Nat.gcd_eq_left h, Nat.mul_div_cancel _ hs]

/-- where they do not, heartbeats are further apart -/
theorem lt_gap_of_not_dvd (hs : 0 < c.size) (h : ¬ c.size ∣ c.period) : heartbeatSeconds < c.gap := by
  obtain ⟨k, hk⟩ := Nat.gcd_dvd_left c.size c.period
  have hg := c.gcd_pos hs
  have hgap : c.gap = heartbeatSeconds * k := by
    have hcancel : heartbeatSeconds * (Nat.gcd c.size c.period * k) / Nat.gcd c.size c.period = heartbeatSeconds * k := by
      rw [Nat.mul_left_comm, Nat.mul_div_cancel_left _ hg]
    rwa [← hk] at hcancel
  have hk0 : k ≠ 0 := by
    rintro rfl
    omega
  have hk1 : k ≠ 1 := by
    rintro rfl
    rw [Nat.mul_one] at hk
    exact h (Nat.gcd_eq_left_iff_dvd.1 hk.symm)
  rw [hgap]
  simp only [heartbeatSeconds]
  omega

/-- then the end of the first period falls inside a batch -/
theorem exists_batch_over_period (hs : 0 < c.size) (h : ¬ c.size ∣ c.period) :
    ∃ n, n * c.size < c.period ∧ c.period < (n + 1) * c.size := by
  refine ⟨c.period / c.size, ?_, ?_⟩
  · refine Nat.lt_of_le_of_ne (Nat.div_mul_le_self c.period c.size) fun heq => h ⟨c.period / c.size, ?_⟩
    rw [Nat.mul_comm, heq]
  · rw [Nat.mul_comm]
    exact Nat.lt_mul_div_succ c.period hs

/-- the schedule's time after whole cadences is whole gaps, as far as it can be counted -/
theorem expectedElapsed_cadence (hr : 0 < c.rate) (j : Nat) :
    expectedElapsed c.rate (j * c.cadence) = min (j * c.gap * Duration.nanosPerSecond) maxCount := by
  have hcancel : j * (c.gap * c.rate) * Duration.nanosPerSecond = j * c.gap * Duration.nanosPerSecond * c.rate := by
    rw [← Nat.mul_assoc j, Nat.mul_right_comm]
  rw [expectedElapsed, cadence_eq_gap, hcancel, Nat.mul_div_cancel _ hr]

/-- the lines of the first rounds -/
def orderLines (n : Nat) : List Octets := (c.order n).flatMap c.lines

theorem orderLines_succ (n : Nat) : c.orderLines (n + 1) = c.orderLines n ++ (c.round n).flatMap c.lines := by
  rw [orderLines, order, List.flatMap_append]
  rfl

theorem eventCount_orderLines (n : Nat) : eventCount (c.orderLines n) = n * c.size := by
  rw [orderLines, eventCount_lines, batchCount_order]

/-- a round has one mark at most, behind its batch -/
theorem marks_round (n : Nat) : marks ((c.round n).flatMap c.lines) = if c.Beats n then [(c.size, c.size)] else [] := by
  have hlines : (c.lines (.batch n)).length = c.size := by rw [lines, List.length_map, length_batch]
  obtain ⟨hcount, hbeats⟩ := c.eventCount_of_subset_batch (List.Subset.refl (c.lines (.batch n)))
  have hbatch : marks (c.lines (.batch n)) = [] := marks_of_not_mem (List.count_eq_zero.1 hbeats)
  unfold round
  split
  · rw [List.flatMap_cons, List.flatMap_singleton, marks_append, hbatch, hcount, hlines]
    have hbeat : marks (c.lines .heartbeat) = [(0, 0)] := marks_heartbeat
    rw [hbeat]
    rfl
  · rw [List.flatMap_singleton, hbatch]

/-- how many heartbeats the first rounds have -/
theorem count_order (hs : 0 < c.size) (n : Nat) : (c.order n).count .heartbeat = 1 + n / c.stride := by
  induction n with
  | zero =>
    rw [Nat.zero_div]
    rfl
  | succ n ih =>
    have hround : (c.round n).count .heartbeat = if c.stride ∣ n + 1 then 1 else 0 := by
      simp only [round, c.beats_iff hs]
      split <;> rfl
    rw [order, List.count_append, ih, hround, Nat.succ_div, Nat.add_assoc]

theorem length_orderLines (hs : 0 < c.size) (n : Nat) : (c.orderLines n).length = n * c.size + (1 + n / c.stride) := by
  have hrecords : ∀ l ∈ c.orderLines n, IsRecord l := c.isRecord_of_mem_flatMap
  have hkinds := eventCount_add_count hrecords
  rw [← hkinds, eventCount_orderLines, orderLines, count_heartbeat_lines, c.count_order hs]

/-- **The heartbeats of the first rounds** stand a cadence of events apart, and each is a line itself. -/
theorem marks_order (hs : 0 < c.size) (n : Nat) :
    marks (c.orderLines n) = (List.range (1 + n / c.stride)).map fun j => (j * (c.cadence + 1), j * c.cadence) := by
  induction n with
  | zero =>
    have hfirst : c.orderLines 0 = [utf8 heartbeat] := rfl
    rw [hfirst, marks_heartbeat, Nat.zero_div]
    show [(0, 0)] = [(0 * (c.cadence + 1), 0 * c.cadence)]
    rw [Nat.zero_mul, Nat.zero_mul]
  | succ n ih =>
    rw [orderLines_succ, marks_append, ih, marks_round, eventCount_orderLines, c.length_orderLines hs]
    simp only [c.beats_iff hs]
    split
    · rename_i hd
      have hq : 1 + (n + 1) / c.stride = 1 + n / c.stride + 1 := by rw [Nat.succ_div_of_dvd hd, Nat.add_assoc]
      -- this heartbeat is one more, so its number is that of those before it
      have hevents : n * c.size + c.size = (1 + n / c.stride) * c.cadence := by
        rw [c.cadence_eq, ← Nat.succ_mul, Nat.add_comm 1, ← Nat.succ_div_of_dvd hd, ← Nat.mul_assoc,
          Nat.div_mul_cancel hd]
      have hlines : n * c.size + (1 + n / c.stride) + c.size = (1 + n / c.stride) * (c.cadence + 1) := by
        rw [Nat.mul_succ, ← hevents]
        omega
      rw [hq, List.range_succ, List.map_append, List.map_singleton, List.map_singleton, hevents, hlines]
    · rename_i hd
      rw [Nat.succ_div_of_not_dvd hd, List.map_nil, List.append_nil]

end Course

end Feed

open CallFeed.Feed

namespace Flooder

/-- the events of whole rounds are so many batches, and with them so many heartbeats -/
theorem totals_of_betweenRounds {c : Course} {r : Run} (hs : 0 < c.size) (h : BetweenRounds c r) :
    r.events = r.batches * c.size ∧ r.heartbeats = 1 + r.batches / c.stride ∧
      r.batches / c.stride = r.events / c.cadence := by
  have hevents : r.events = r.batches * c.size := by
    rw [Accounts.events h, Course.batchCount_order]
  refine ⟨hevents, (Accounts.heartbeats h).trans (c.count_order hs r.batches), ?_⟩
  rw [hevents, c.cadence_eq, Nat.mul_div_mul_right _ _ hs]

/-- where the heartbeats of whole rounds stand, and how many events come before each -/
theorem marks_of_betweenRounds {c : Course} {r : Run} (hs : 0 < c.size) (h : BetweenRounds c r) :
    heartbeatPlaces r.sent = (List.range r.heartbeats).map (fun j => j * (c.cadence + 1)) ∧
      eventsBefore r.sent = (List.range r.heartbeats).map fun j => j * c.cadence := by
  have hmarks := c.marks_order hs r.batches
  rw [Course.orderLines, ← Accounts.lines_eq h, ← (totals_of_betweenRounds hs h).2.1] at hmarks
  -- the places and the events before them are the two halves of the marks
  constructor
  · have hplaces := congrArg (List.map Prod.fst) hmarks
    rw [marks, List.map_map, List.map_map] at hplaces
    exact (List.map_id _).symm.trans hplaces
  · have hbefore := congrArg (List.map Prod.snd) hmarks
    rwa [marks, List.map_map, List.map_map] at hbefore

/-- every multiple of the cadence that the events of whole rounds come to has its heartbeat -/
theorem mem_eventsBefore {c : Course} {r : Run} (hs : 0 < c.size) (hc : 0 < c.cadence) (h : BetweenRounds c r) {n : Nat}
    (hn : c.cadence ∣ n) (hle : n ≤ r.events) : n ∈ eventsBefore r.sent := by
  obtain ⟨-, hbeats, hcadences⟩ := totals_of_betweenRounds hs h
  obtain ⟨j, rfl⟩ := hn
  have hj : j ≤ r.events / c.cadence := by
    rw [Nat.le_div_iff_mul_le hc, Nat.mul_comm]
    exact hle
  rw [(marks_of_betweenRounds hs h).2]
  exact List.mem_map.2 ⟨j, List.mem_range.2 (by omega), Nat.mul_comm _ _⟩

/-- **The cadence of the heartbeats.** In a flood that ran its time the heartbeats after the first are as many as the
events have whole cadences, the cadence being the least number of events that is whole batches and whole periods. They
stand a cadence of events apart, and each is a line itself. By the schedule that is a whole number of seconds. Where
batches divide the period it is the fifteen of the period, and every multiple of the period that the events come to has
its heartbeat. Where they do not, it is more, and the end of the first period, which falls inside a batch, has none. -/
theorem heartbeats_keep_cadence (f : Flooder) (src : Source) (w : Writer) {s : Summary}
    (h : (f.flood src w).outcome = .ok (.completed s)) :
    let b := f.batchSize
    let period := f.rate * heartbeatSeconds
    let m := Nat.lcm b period
    let gap := heartbeatSeconds * b / Nat.gcd b period
    let sent := (f.flood src w).run.sent
    s.heartbeats = 1 + s.events / m ∧
    heartbeatPlaces sent = (List.range s.heartbeats).map (fun j => j * (m + 1)) ∧
    eventsBefore sent = (List.range s.heartbeats).map (fun j => j * m) ∧
    (m = gap * f.rate ∧
      ∀ j, expectedElapsed f.rate (j * m) = min (j * gap * Duration.nanosPerSecond) maxCount) ∧
    (b ∣ period → gap = heartbeatSeconds ∧ ∀ n, period ∣ n → n ≤ s.events → n ∈ eventsBefore sent) ∧
    (¬ b ∣ period → heartbeatSeconds < gap ∧ period ∉ eventsBefore sent ∧
      ∃ n, n * b < period ∧ period < (n + 1) * b) := by
  intro b period m gap sent
  obtain ⟨rfl, hbetween⟩ := betweenRounds_of_completed h
  let c := f.course src
  have hs : 0 < c.size := f.batchSize_pos
  obtain ⟨-, hbeats, hcadences⟩ := totals_of_betweenRounds hs hbetween
  obtain ⟨hplaces, hbefore⟩ := marks_of_betweenRounds hs hbetween
  refine ⟨hbeats.trans (congrArg (1 + ·) hcadences), hplaces, hbefore,
    ⟨c.cadence_eq_gap, c.expectedElapsed_cadence f.rate_pos⟩, fun hd => ?_, fun hd => ?_⟩
  · obtain ⟨hgap, hm⟩ := c.gap_of_dvd hs hd
    have hperiod : 0 < c.period := Nat.mul_pos f.rate_pos (by decide)
    exact ⟨hgap, fun n hn hle => mem_eventsBefore hs (hm ▸ hperiod) hbetween (hm ▸ hn) hle⟩
  · refine ⟨c.lt_gap_of_not_dvd hs hd, fun hmem => ?_, c.exists_batch_over_period hs hd⟩
    rw [hbefore] at hmem
    obtain ⟨j, -, hj⟩ := List.mem_map.1 hmem
    exact hd (hj ▸ (Nat.dvd_lcm_left b period).trans (Nat.dvd_mul_left m j))

/-- 25 a second for 31 seconds: batches of two step over 375, so the second heartbeat comes after 750 events -/
theorem every_other_heartbeat_is_missed :
    let f : Flooder := ⟨25, 31 * Duration.nanosPerSecond, ⟨false⟩, by decide⟩
    let src : Source := { words := Words.seeded 7 }
    ∃ s, (f.flood src {}).outcome = .ok (.completed s) ∧ s.events = 776 ∧ s.heartbeats = 2 ∧
      heartbeatPlaces (f.flood src {}).run.sent = [0, 751] ∧ eventsBefore (f.flood src {}).run.sent = [0, 750] ∧
      375 ∉ eventsBefore (f.flood src {}).run.sent := by
  intro f src
  have hw : Writer.Prompt {} := ⟨⟨by decide, by decide, rfl⟩, fun _ => rfl⟩
  have hb : f.Bounded := ⟨by decide, by decide, by decide⟩
  have hcloses : f.Closes src (f.flood src {}) := closes_of_bounded hb hw
  have hbatches : (f.flood src {}).run.batches = 388 := by
    refine (hcloses.isLeast hb.duration).unique ⟨by decide, ?_⟩
    intro n hn
    have hle : f.duration ≤
        Duration.ceilMillis (n * f.batchSize * Duration.nanosPerSecond / f.rate) * Duration.nanosPerMilli := hn
    rw [show f.duration = 31 * Duration.nanosPerSecond from rfl, show f.batchSize = 2 by decide,
      show f.rate = 25 from rfl] at hle
    simp only [Duration.ceilMillis, Number.ceilDiv, Duration.nanosPerMilli, Duration.nanosPerSecond] at hle
    omega
  have hevents : (f.flood src {}).run.events = 776 := by
    rw [hcloses.events_eq, hbatches, show f.batchSize = 2 by decide]
  obtain ⟨hbeats, hplaces, hbefore, -, -, hmissed⟩ := f.heartbeats_keep_cadence src {} hcloses.outcome
  have htwo : (f.flood src {}).run.summary.heartbeats = 2 := by
    rw [hbeats, show (f.flood src {}).run.summary.events = 776 from hevents]
    decide
  rw [htwo] at hplaces hbefore
  exact ⟨_, hcloses.outcome, hevents, htwo, hplaces.trans (by decide), hbefore.trans (by decide),
    (hmissed (by decide)).2.1⟩

end Flooder

end CallFeed
