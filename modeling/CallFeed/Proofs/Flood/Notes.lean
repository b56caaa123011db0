/-
What a flood notes.

Two steps note something: a wait for the schedule, before it begins, and the look that finds a heartbeat due, before it
is written. Both follow a batch that was written and counted. So the waits and the heartbeats noted stand at whole
batches, in order, the waits where the writer left time for them and the heartbeats at all whole periods.

- `Run.waits`, `Run.beats`: what was noted; `Run.waits_eq`, `Run.beats_eq`: it is what reads back from the lines of the log;
- `step_notes`: the two steps that note something;
- `Noted`, `step_noted`: after which events there are notes, wherever a flood stands.
-/
import CallFeed.Proofs.Flood.Pacing
import CallFeed.Proofs.Log.Reading

namespace CallFeed

open CallFeed.Feed

namespace Run

/-! ## What was noted -/

/-- the waits noted, each with the events before it -/
def waits (r : Run) : List (Nat × Nat) := r.notes.toList.filterMap Note.wait?

/-- the events before each of the heartbeats noted -/
def beats (r : Run) : List Nat := r.notes.toList.filterMap Note.beat?

variable {r s : Run}

theorem waits_congr (h : s.notes = r.notes) : s.waits = r.waits := by rw [waits, waits, h]

theorem beats_congr (h : s.notes = r.notes) : s.beats = r.beats := by rw [beats, beats, h]

theorem waits_push {n : Note} (h : s.notes = r.notes.push n) : s.waits = r.waits ++ n.wait?.toList := by
  rw [waits, waits, h, Array.toList_push, List.filterMap_append]
  cases n <;> rfl

theorem beats_push {n : Note} (h : s.notes = r.notes.push n) : s.beats = r.beats ++ n.beat?.toList := by
  rw [beats, beats, h, Array.toList_push, List.filterMap_append]
  cases n <;> rfl

theorem waits_push_ahead {events sleep : Nat} (h : s.notes = r.notes.push (.ahead events sleep)) :
    s.waits = r.waits ++ [(events, sleep)] := waits_push h

theorem beats_push_heartbeat {events : Nat} (h : s.notes = r.notes.push (.heartbeat events)) :
    s.beats = r.beats ++ [events] := beats_push h

theorem mem_waits_iff {events sleep : Nat} : (events, sleep) ∈ r.waits ↔ .ahead events sleep ∈ r.notes := by
  rw [waits, List.mem_filterMap]
  constructor
  · rintro ⟨n, hn, hw⟩
    cases n with
    | ahead e t =>
      obtain ⟨rfl, rfl⟩ := Prod.mk.inj (Option.some.inj hw)
      exact Array.mem_toList_iff.1 hn
    | heartbeat e => cases hw
  · intro h
    exact ⟨_, Array.mem_toList_iff.2 h, rfl⟩

/-- what is read back from the log is what was noted -/
theorem waits_eq (r : Run) : (r.notes.toList.map Note.line).filterMap LogLine.wait? = r.waits := by
  rw [List.filterMap_map, waits]
  exact List.filterMap_congr fun n _ => n.wait?_line

theorem beats_eq (r : Run) : (r.notes.toList.map Note.line).filterMap LogLine.beat? = r.beats := by
  rw [List.filterMap_map, beats]
  exact List.filterMap_congr fun n _ => n.beat?_line

theorem waits_pace_of_early {rate : Nat} (h : r.elapsed < expectedElapsed rate r.events) :
    (r.pace rate).waits = r.waits ++ [(r.events, expectedElapsed rate r.events - r.elapsed)] :=
  waits_push_ahead (notes_pace_of_early h)

/-- a wait is no heartbeat -/
theorem beats_pace (r : Run) (rate : Nat) : (r.pace rate).beats = r.beats := by
  by_cases hlate : expectedElapsed rate r.events ≤ r.elapsed
  · rw [pace_of_late hlate]
  · exact (beats_push (notes_pace_of_early (Nat.lt_of_not_le hlate))).trans (List.append_nil _)

/-- a heartbeat is no wait -/
theorem waits_note_heartbeat (r : Run) (events : Nat) : (r.note (.heartbeat events)).waits = r.waits :=
  (waits_push rfl).trans (List.append_nil _)

end Run

/-- whole multiples of a number, from itself on -/
def multiples (b n : Nat) : List Nat := (List.range n).map fun k => (k + 1) * b

theorem multiples_succ (b n : Nat) : multiples b (n + 1) = multiples b n ++ [(n + 1) * b] := by
  rw [multiples, List.range_succ, List.map_append]
  rfl

theorem pairwise_multiples {b : Nat} (hb : 0 < b) (n : Nat) : (multiples b n).Pairwise (· < ·) := by
  rw [multiples, List.pairwise_map]
  exact List.pairwise_lt_range.imp fun hlt => Nat.mul_lt_mul_of_pos_right (Nat.succ_lt_succ hlt) hb

theorem mem_multiples_iff {b : Nat} (hb : 0 < b) {n k : Nat} : k ∈ multiples b n ↔ 0 < k ∧ k ≤ n * b ∧ b ∣ k := by
  constructor
  · intro h
    obtain ⟨i, hi, rfl⟩ := List.mem_map.1 h
    exact ⟨Nat.mul_pos i.succ_pos hb, Nat.mul_le_mul_right b (List.mem_range.1 hi), Nat.dvd_mul_left b (i + 1)⟩
  · rintro ⟨hpos, hle, i, rfl⟩
    have hi : 0 < i := Nat.pos_of_mul_pos_left hpos
    have hin : i ≤ n := Nat.le_of_mul_le_mul_left (by rwa [Nat.mul_comm n] at hle) hb
    refine List.mem_map.2 ⟨i - 1, List.mem_range.2 (by omega), ?_⟩
    rw [Nat.sub_add_cancel hi, Nat.mul_comm]

namespace Flooder

variable {f : Flooder} {src : Source} {w : Writer}

/-! ## Steps -/

/-- **Two steps note something**: a wait for the schedule, and the look that finds a heartbeat due. -/
theorem step_notes {p q : Point} (hs : f.Step src w p q) :
    q.run.notes = p.run.notes ∨
      (∃ r, p = ⟨r, .pace⟩ ∧ r.elapsed < expectedElapsed f.rate r.events ∧
        q.run.notes = r.notes.push (.ahead r.events (expectedElapsed f.rate r.events - r.elapsed))) ∨
      ∃ r, p = ⟨r, .beat⟩ ∧ heartbeatDue f.rate r.events = .ok true ∧
        q.run.notes = r.notes.push (.heartbeat r.events) := by
  cases hs with
  | call hne hok => exact Or.inl (Run.notes_record _ _)
  | fail hne he => exact Or.inl (Run.notes_record _ _)
  | draw ht hd =>
    obtain ⟨-, rfl⟩ := draw_eq hd
    exact Or.inl rfl
  | spent ht hd =>
    obtain ⟨counter, pos, rfl⟩ := run_of_draw hd
    exact Or.inl rfl
  | @pace r =>
    by_cases hlate : expectedElapsed f.rate r.events ≤ r.elapsed
    · exact Or.inl (by rw [Run.pace_of_late hlate])
    · have hearly := Nat.lt_of_not_le hlate
      exact Or.inr (Or.inl ⟨r, rfl, hearly, Run.notes_pace_of_early hearly⟩)
  | @beat r hb => exact Or.inr (Or.inr ⟨r, rfl, hb, rfl⟩)
  | _ => exact Or.inl rfl

theorem mem_notes_of_step {p q : Point} (hs : f.Step src w p q) {n : Note} (h : n ∈ p.run.notes) : n ∈ q.run.notes := by
  rcases step_notes hs with heq | ⟨r, rfl, -, heq⟩ | ⟨r, rfl, -, heq⟩
  · exact heq ▸ h
  · exact heq ▸ Array.mem_push_of_mem _ h
  · exact heq ▸ Array.mem_push_of_mem _ h

/-- what was noted stays -/
theorem mem_notes_of_reaches {p q : Point} (h : f.Reaches src w p q) {n : Note} (hn : n ∈ p.run.notes) :
    n ∈ q.run.notes := by
  induction h with
  | refl => exact hn
  | tail _ hs ih => exact mem_notes_of_step hs ih

/-! ## After which events there are notes -/

/-- a heartbeat is due after so many events -/
def marked (f : Flooder) (events : Nat) : Bool := events % (f.rate * heartbeatSeconds) == 0

/-- what was noted of the first `m` batches waited for and the first `n` looked at for heartbeats -/
structure NotedTo (f : Flooder) (m n : Nat) (r : Run) : Prop where
  waits : (r.waits.map Prod.fst).Sublist (multiples f.batchSize m)
  beats : r.beats = (multiples f.batchSize n).filter f.marked

/-- what was noted wherever a flood stands: of all batches counted, but for the wait and the heartbeat to come -/
def Noted (f : Flooder) (p : Point) : Prop :=
  match p.stage with
  | .pace => ∃ n, p.run.batches = n + 1 ∧ f.NotedTo n n p.run
  | .beat => ∃ n, p.run.batches = n + 1 ∧ f.NotedTo (n + 1) n p.run
  | .ended (.stopped _) => True
  | _ => f.NotedTo p.run.batches p.run.batches p.run

namespace NotedTo

variable {m n : Nat} {r s : Run}

theorem congr (h : f.NotedTo m n r) (hn : s.notes = r.notes) : f.NotedTo m n s :=
  ⟨by rw [Run.waits_congr hn]; exact h.waits, by rw [Run.beats_congr hn]; exact h.beats⟩

/-- one more batch is waited for, or is too late to be -/
theorem pace (h : f.NotedTo n n r) (hr : r.events = (n + 1) * f.batchSize) :
    f.NotedTo (n + 1) n (r.pace f.rate) := by
  refine ⟨?_, (r.beats_pace f.rate).trans h.beats⟩
  rw [multiples_succ]
  by_cases hlate : expectedElapsed f.rate r.events ≤ r.elapsed
  · rw [Run.pace_of_late hlate]
    exact h.waits.trans (List.sublist_append_left _ _)
  · rw [Run.waits_pace_of_early (Nat.lt_of_not_le hlate), List.map_append, List.map_singleton, hr]
    exact h.waits.append (List.Sublist.refl _)

/-- one more batch is looked at, and a heartbeat is not due after it -/
theorem skip (h : f.NotedTo (n + 1) n r) (hn : f.marked ((n + 1) * f.batchSize) = false) :
    f.NotedTo (n + 1) (n + 1) r := by
  refine ⟨h.waits, ?_⟩
  rw [multiples_succ, List.filter_append, List.filter_singleton, hn, h.beats]
  exact (List.append_nil _).symm

/-- one more batch is looked at, and a heartbeat is due after it -/
theorem beat (h : f.NotedTo (n + 1) n r) (hn : f.marked ((n + 1) * f.batchSize) = true)
    (hr : r.events = (n + 1) * f.batchSize) : f.NotedTo (n + 1) (n + 1) (r.note (.heartbeat r.events)) := by
  have hbeats : (r.note (.heartbeat r.events)).beats = r.beats ++ [r.events] := Run.beats_push_heartbeat rfl
  refine ⟨by rw [r.waits_note_heartbeat]; exact h.waits, ?_⟩
  rw [multiples_succ, List.filter_append, List.filter_singleton, hn, hbeats, h.beats, hr]
  rfl

end NotedTo

/-- where a flood was not stopped, the events counted are those of the batches counted -/
theorem events_of_onCourse {p : Point} (h : OnCourse f src p) (hn : ∀ fault, p.stage ≠ .ended (.stopped fault)) :
    p.run.events = p.run.batches * f.batchSize := by
  obtain ⟨n, hnumbered⟩ := numbered_of_onCourse h hn
  exact hnumbered.events

theorem heartbeatDue_eq_marked {events : Nat} {b : Bool} (h : heartbeatDue f.rate events = .ok b) :
    f.marked events = b := by
  rw [Bool.eq_iff_iff, heartbeatDue_eq h, marked, beq_iff_eq]

/-- **A step notes what the schedule says of the batch last written.** -/
theorem step_noted {p q : Point} (hs : f.Step src w p q) (hc : OnCourse f src p) (h : f.Noted p) : f.Noted q := by
  cases hs with
  | call hne hok => exact h.congr (Run.notes_record _ _)
  | fail hne he => exact h.congr (Run.notes_record _ _)
  | beaten => exact h.congr rfl
  | @counted r n => exact ⟨r.batches, rfl, h.congr rfl⟩
  | close ht => exact h
  | draw ht hd =>
    obtain ⟨-, rfl⟩ := draw_eq hd
    exact h.congr rfl
  | spent ht hd => trivial
  | @pace r =>
    obtain ⟨n, hn, hnoted⟩ := h
    have hevents : r.events = (n + 1) * f.batchSize := by rw [← hn]; exact events_of_onCourse hc nofun
    exact ⟨n, (Run.batches_eq_of_totals (r.pace_totals f.rate).1).trans hn, hnoted.pace hevents⟩
  | @skip r hb =>
    obtain ⟨n, hn, hnoted⟩ := h
    have hevents : r.events = (n + 1) * f.batchSize := by rw [← hn]; exact events_of_onCourse hc nofun
    have hmarked := heartbeatDue_eq_marked hb
    rw [hevents] at hmarked
    have hnext := hnoted.skip hmarked
    rw [← hn] at hnext
    exact hnext
  | @beat r hb =>
    obtain ⟨n, hn, hnoted⟩ := h
    have hevents : r.events = (n + 1) * f.batchSize := by rw [← hn]; exact events_of_onCourse hc nofun
    have hmarked := heartbeatDue_eq_marked hb
    rw [hevents] at hmarked
    have hnext := hnoted.beat hmarked hevents
    rw [← hn] at hnext
    exact hnext
  | unknown hb => trivial
  | @flush r =>
    unfold Run.finish Finish.point
    cases w.flushError with
    | none => exact NotedTo.congr h rfl
    | some e => exact NotedTo.congr h rfl

theorem noted_of_reaches {p : Point} (h : f.Reaches src w .start p) : f.Noted p :=
  h.keeps_from_start ⟨List.Sublist.refl _, rfl⟩ fun _ _ hp hs hn => step_noted hs (onCourse_of_reaches hp) hn

end Flooder

end CallFeed
