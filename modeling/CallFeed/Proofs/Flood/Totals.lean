/-
The totals of a flood, against what its client has.

The events, the batches, the heartbeats, the numbers and the words drawn move at different points of a round, and a call
may fail at any of them. The summary counts what was written whole. Beyond that the client has at most the start of the
one portion whose write failed.

- `Course.Whole`: the portions a summary counts;
- `flood_adds_up`: the totals, the octets, the lines and the words of a flood that ran its time or lost its client.
-/
import CallFeed.Proofs.Feed.Records
import CallFeed.Proofs.Flood.Progress

namespace CallFeed

open CallFeed.Feed

/-- the first portions of the order are those that a summary counts -/
structure Feed.Course.Whole (c : Course) (ps : List Portion) (s : Summary) : Prop where
  inOrder : ∃ n, ps <+: c.order n
  batches : batchCount ps = s.batches
  heartbeats : ps.count .heartbeat = s.heartbeats

/-- the summary of a flood that ran its time or lost its client is that of its run -/
theorem Finish.eq_summary {d : Finish} {s : Summary}
    (h : d.outcome = .ok (.completed s) ∨ d.outcome = .ok (.disconnected s)) : s = d.run.summary := by
  unfold Finish.outcome at h
  cases he : d.ending with
  | completed =>
    rw [he] at h
    rcases h with h | h <;> cases h
    rfl
  | broken e =>
    rw [he] at h
    dsimp only at h
    split at h <;> rcases h with h | h <;> cases h
    rfl
  | stopped fault =>
    rw [he] at h
    rcases h with h | h <;> cases h

theorem Finish.ending_of_completed {d : Finish} {s : Summary} (h : d.outcome = .ok (.completed s)) :
    d.ending = .completed := by
  unfold Finish.outcome at h
  cases he : d.ending with
  | completed => rfl
  | broken e =>
    rw [he] at h
    dsimp only at h
    split at h <;> cases h
  | stopped fault =>
    rw [he] at h
    cases h

namespace Accounts

variable {c : Course} {ps : List Portion} {r : Run}

theorem whole {now : List Portion} {rest : Octets} {n : Nat} (h : Accounts c ps now rest r) (hp : ps <+: c.order n) :
    c.Whole ps r.summary := ⟨⟨n, hp⟩, h.batches.symm, h.heartbeats.symm⟩

/-- with nothing under way the client has the lines of the portions written -/
theorem lines_eq (h : Accounts c ps [] [] r) : lines r.sent = ps.flatMap c.lines := by
  rw [h.sent_eq, Course.flatMap_octets, lines_flatten fun l hl => (c.isRecord_of_mem_flatMap l hl).isLine]

/-- with nothing under way the client has the lines that are counted -/
theorem lines_sent (h : Accounts c ps [] [] r) :
    eventCount (lines r.sent) = r.events ∧ (lines r.sent).count (utf8 heartbeat) = r.heartbeats := by
  rw [h.lines_eq, c.eventCount_lines, c.count_heartbeat_lines, h.events, h.heartbeats]
  exact ⟨rfl, rfl⟩

/-- in the middle of a portion the client has the lines that are counted, and less than a batch of events more -/
theorem lines_cut {p : Portion} {rest : Octets} (hs : 0 < c.size) (h : Accounts c ps [p] rest r) (hrest : rest ≠ []) :
    (r.events ≤ eventCount (lines r.sent) ∧ eventCount (lines r.sent) < r.events + c.size) ∧
      (lines r.sent).count (utf8 heartbeat) = r.heartbeats := by
  obtain ⟨part, hsent, hpart⟩ := h.sent
  rw [List.flatMap_singleton] at hpart
  obtain ⟨hevents, hbeats⟩ := c.lines_of_cut hs hpart hrest
  rw [hsent, c.lines_portions, eventCount_append, List.count_append, hbeats, c.eventCount_lines,
    c.count_heartbeat_lines, ← h.events, h.heartbeats]
  exact ⟨⟨Nat.le_add_right _ _, Nat.add_lt_add_left hevents.1 _⟩, rfl⟩

/-- the client never has more events than are numbered -/
theorem eventCount_le {p : Portion} {rest : Octets} (hs : 0 < c.size) (h : Accounts c ps [p] rest r) :
    eventCount (lines r.sent) ≤ r.counter := by
  obtain ⟨part, hsent, hpart⟩ := h.sent
  rw [List.flatMap_singleton] at hpart
  have hle : eventCount (lines part) ≤ batchCount [p] * c.size := by
    by_cases hrest : rest = []
    · have hp : part = [p].flatMap c.octets := by rw [List.flatMap_singleton, ← hpart, hrest, List.append_nil]
      have hlines := c.lines_portions [p] []
      rw [List.append_nil, ← hp] at hlines
      rw [hlines, show lines [] = [] from rfl, List.append_nil, c.eventCount_lines]
    · exact (c.lines_of_cut hs hpart hrest).1.2
  rw [hsent, c.lines_portions, eventCount_append, c.eventCount_lines, h.counter, batchCount_append, Nat.add_mul]
  exact Nat.add_le_add_left hle _

/-- the words drawn are those of the events counted, and of the batch under way -/
theorem pos_eq {now : List Portion} {rest : Octets} (h : Accounts c ps now rest r) :
    r.pos = c.position (r.events + batchCount now * c.size) := by
  rw [h.pos, h.counter, h.events, batchCount_append, Nat.add_mul]

theorem events_eq {now : List Portion} {rest : Octets} (h : Accounts c ps now rest r) :
    r.events = c.size * r.batches := by
  rw [h.events, h.batches, Nat.mul_comm]

end Accounts

namespace Flooder

/-- a flood that was not stopped ends with nothing under way, flushing tried, or in a portion whose write failed -/
theorem ends_between_or_within (f : Flooder) (src : Source) (w : Writer)
    (h : ∀ fault, (f.flood src w).ending ≠ .stopped fault) :
    (f.flood src w).run.flushed = true ∧ BetweenRounds (f.course src) (f.flood src w).run ∨
      (f.flood src w).run.flushed = false ∧ (f.flood src w).ending ≠ .completed ∧ ∃ ps p call,
        call.offered ≠ [] ∧ (f.flood src w).run.calls.back? = some call ∧ call.fatal? ≠ none ∧
          Comes (f.course src) ps p ∧ Accounts (f.course src) ps [p] call.offered (f.flood src w).run := by
  have hcourse := f.onCourse_flood src w
  unfold OnCourse Finish.point at hcourse
  cases he : (f.flood src w).ending with
  | completed =>
    rw [he] at hcourse
    exact Or.inl hcourse
  | broken e =>
    rw [he] at hcourse
    rcases hcourse with hflush | ⟨hf, ps, p, call, hne, hback, hfatal, hcomes, hacc⟩
    · exact Or.inl hflush
    · exact Or.inr ⟨hf, nofun, ps, p, call, hne, hback, by rw [hfatal]; exact nofun, hcomes, hacc⟩
  | stopped fault => exact absurd he (h fault)

/-- a flood that ran its time ends with nothing under way -/
theorem betweenRounds_of_completed {f : Flooder} {src : Source} {w : Writer} {s : Summary}
    (h : (f.flood src w).outcome = .ok (.completed s)) :
    s = (f.flood src w).run.summary ∧ BetweenRounds (f.course src) (f.flood src w).run := by
  refine ⟨Finish.eq_summary (.inl h), ?_⟩
  rcases f.ends_between_or_within src w (Finish.not_stopped_of_ok h) with ⟨-, hacc⟩ | ⟨-, hne, -⟩
  · exact hacc
  · exact absurd (Finish.ending_of_completed h) hne

/-- **The totals of a flood add up.** Where it comes out with a summary, what was sent is the portions the summary
counts, in order, and a tail. The tail is empty once flushing was tried, as it is when the flood ran its time; else it
is a start of the next portion, and the last call failed with the rest of it. So the client has less than a batch of
events more than are counted, and just the heartbeats that are, and the words drawn are those of the events counted and,
where the write of a batch failed, of that batch. -/
theorem flood_adds_up (f : Flooder) (src : Source) (w : Writer) {s : Summary}
    (h : (f.flood src w).outcome = .ok (.completed s) ∨ (f.flood src w).outcome = .ok (.disconnected s)) :
    let c := f.course src
    let r := (f.flood src w).run
    s.events = f.batchSize * s.batches ∧
    (∃ ps tail, c.Whole ps s ∧ r.sent = ps.flatMap c.octets ++ tail ∧
      (r.flushed = true → tail = [] ∧ r.pos = c.position s.events) ∧
      (r.flushed = false → ∃ p call, (∃ n, ps ++ [p] <+: c.order n) ∧ tail ++ call.offered = c.octets p ∧
        call.offered ≠ [] ∧ r.calls.back? = some call ∧ call.fatal? ≠ none ∧
        r.pos = c.position (if p.isBatch then s.events + f.batchSize else s.events))) ∧
    ((f.flood src w).outcome = .ok (.completed s) → r.flushed = true) ∧
    (s.events ≤ eventCount (lines r.sent) ∧ eventCount (lines r.sent) < s.events + f.batchSize) ∧
    (r.flushed = true → eventCount (lines r.sent) = s.events) ∧
    (heartbeatPlaces r.sent).length = s.heartbeats := by
  intro c r
  have hstopped : ∀ fault, (f.flood src w).ending ≠ .stopped fault := by
    rcases h with h | h
    · exact Finish.not_stopped_of_ok h
    · exact Finish.not_stopped_of_ok h
  obtain rfl := Finish.eq_summary h
  have hsize : 0 < c.size := f.batchSize_pos
  rw [length_heartbeatPlaces]
  rcases f.ends_between_or_within src w hstopped with
    ⟨hf, hacc⟩ | ⟨hf, hne, ps, p, call, hoff, hback, hfatal, hcomes, hacc⟩
  · obtain ⟨hevents, hbeats⟩ := Accounts.lines_sent hacc
    have hpos := Accounts.pos_eq hacc
    have hle : eventCount (lines r.sent) < r.events + f.batchSize := hevents.symm ▸ Nat.lt_add_of_pos_right hsize
    refine ⟨Accounts.events_eq hacc, ⟨c.order r.batches, [], Accounts.whole hacc (List.prefix_refl _), ?_,
      fun _ => ⟨rfl, ?_⟩, fun hf' => ?_⟩, fun _ => hf, ⟨Nat.le_of_eq hevents.symm, hle⟩, fun _ => hevents, hbeats⟩
    · rw [List.append_nil]
      exact Accounts.sent_eq hacc
    · rw [hpos]
      exact congrArg c.position (by rw [batchCount, List.countP_nil, Nat.zero_mul]; rfl)
    · exact absurd (hf.symm.trans hf') nofun
  · obtain ⟨hevents, hbeats⟩ := hacc.lines_cut hsize hoff
    obtain ⟨n, hn⟩ := hcomes.isPrefix
    obtain ⟨part, hsent, hpart⟩ := hacc.sent
    rw [List.flatMap_singleton] at hpart
    have hpos : r.pos = c.position (if p.isBatch then r.events + f.batchSize else r.events) := by
      rw [hacc.pos_eq]
      cases p with
      | heartbeat => rw [batchCount_heartbeat, Nat.zero_mul]; rfl
      | batch n => rw [batchCount_batch, Nat.one_mul]; rfl
    have hflushed (hf' : r.flushed = true) : False := absurd (hf.symm.trans hf') nofun
    have hcompleted (hc : (f.flood src w).outcome = .ok (.completed r.summary)) : r.flushed = true :=
      absurd (Finish.ending_of_completed hc) hne
    exact ⟨hacc.events_eq, ⟨ps, part, hacc.whole ((List.prefix_append ps [p]).trans hn), hsent,
      fun hf' => (hflushed hf').elim, fun _ => ⟨p, call, ⟨n, hn⟩, hpart, hoff, hback, hfatal, hpos⟩⟩, hcompleted,
      hevents, fun hf' => (hflushed hf').elim, hbeats⟩

/-- a client that leaves when it has one event of the second batch -/
theorem leaving_client_adds_up :
    let f : Flooder := ⟨20, Duration.nanosPerSecond, ⟨true⟩, by decide⟩
    let src : Source := { words := Words.cycle #[7] }
    let w : Writer := { limit := some 300, setbacks := [(5, .error (.ofKind .brokenPipe))] }
    (f.flood src w).outcome = .ok (.disconnected ⟨2, 1, 1, 100000000⟩) ∧
      2 ≤ eventCount (lines (f.flood src w).run.sent) ∧ eventCount (lines (f.flood src w).run.sent) < 2 + f.batchSize ∧
      (heartbeatPlaces (f.flood src w).run.sent).length = 1 := by
  intro f src w
  have h : (f.flood src w).outcome = .ok (.disconnected ⟨2, 1, 1, 100000000⟩) :=
    f.outcome_of_steps src w (n := 11) (by decide +kernel)
  obtain ⟨-, -, -, hevents, -, hbeats⟩ := f.flood_adds_up src w (.inr h)
  exact ⟨h, hevents.1, hevents.2, hbeats⟩

end Flooder

end CallFeed
