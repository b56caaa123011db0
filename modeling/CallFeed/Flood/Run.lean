/-
The state of a flood that is under way: the clock, every call made of the writer, what was logged, where numbering and
drawing stand, and the three totals.

Octets are written by one call after another until all are taken. A call that takes nothing, or fails for any reason but
an interruption, ends the write.

- `Run.write_totals`: a write makes calls and moves the clock, and changes nothing else;
- `Run.pace_totals`: waiting for the schedule logs and moves the clock, and changes nothing else.
-/
import CallFeed.Flood.Schedule
import CallFeed.Flood.Writer
import CallFeed.Time.Duration

namespace CallFeed

/-- one call of the writer, once answered: when, what it was offered and what came of it -/
structure Call where
  time : Nat
  offered : Octets
  reply : Reply
deriving DecidableEq, Repr

/-- the octets a call took -/
def Call.taken (c : Call) : Octets :=
  match c.reply with
  | .took n => c.offered.take n
  | .failed _ => []

/-- what is logged during a flood -/
inductive Note where
  /-- ahead of schedule after so many events, by so many nanoseconds -/
  | ahead (events sleep : Nat)
  /-- a heartbeat is about to be sent after so many events -/
  | heartbeat (events : Nat)
deriving DecidableEq, Repr

structure Run where
  /-- milliseconds gone by -/
  clock : Nat := 0
  /-- the calls made, in order -/
  calls : Array Call := #[]
  notes : Array Note := #[]
  /-- the number of the last event drawn -/
  counter : Nat := 0
  /-- the words drawn -/
  pos : Nat := 0
  events : Nat := 0
  batches : Nat := 0
  heartbeats : Nat := 0
  /-- flushing was tried -/
  flushed : Bool := false

namespace Run

/-- nanoseconds gone by -/
def elapsed (r : Run) : Nat := r.clock * Duration.nanosPerMilli

/-- the octets the writer took, in order -/
def sent (r : Run) : Octets := r.calls.toList.flatMap Call.taken

/-- the next call, answered -/
def nextCall (r : Run) (w : Writer) (offered : Octets) : Call :=
  let number := r.calls.size + 1
  ⟨r.clock + w.delay number, offered, w.await number offered 0⟩

/-- a call has been answered -/
def record (r : Run) (c : Call) : Run := { r with clock := c.time, calls := r.calls.push c }

def note (r : Run) (n : Note) : Run := { r with notes := r.notes.push n }

@[simp] theorem calls_record (r : Run) (c : Call) : (r.record c).calls = r.calls.push c := rfl

@[simp] theorem sent_record (r : Run) (c : Call) : (r.record c).sent = r.sent ++ c.taken := by
  simp [sent]

/-- write octets, and the error that ended it, if one did -/
def write (w : Writer) (r : Run) (octets : Octets) : Run × Option IoError :=
  if octets = [] then (r, none)
  else
    let call := r.nextCall w octets
    match h : call.reply with
    | .took 0 => (r.record call, some .writeZero)
    | .took (n + 1) => write w (r.record call) (octets.drop (n + 1))
    | .failed e => if e.kind = .interrupted then write w (r.record call) octets else (r.record call, some e)
termination_by (octets.length, w.lastSetback + 1 - r.calls.size)
decreasing_by
  · apply Prod.Lex.left
    have : octets.length ≠ 0 := by simpa using ‹¬octets = []›
    simp only [List.length_drop]
    omega
  · apply Prod.Lex.right
    have := Writer.le_lastSetback_of_failed (w := w) ((Writer.await_eq w _ _ 0).symm.trans h)
    simp only [calls_record, Array.size_push]
    omega

/-- where numbering, drawing and the totals stand -/
def totals (r : Run) : Nat × Nat × Nat × Nat × Nat := (r.counter, r.pos, r.events, r.batches, r.heartbeats)

theorem counter_eq_of_totals {r s : Run} (h : r.totals = s.totals) : r.counter = s.counter := congrArg (·.1) h

@[simp] theorem totals_record (r : Run) (c : Call) : (r.record c).totals = r.totals := by
  simp only [totals, record]

@[simp] theorem notes_record (r : Run) (c : Call) : (r.record c).notes = r.notes := by
  simp only [record]

theorem write_totals (w : Writer) (r : Run) (octets : Octets) :
    (r.write w octets).1.totals = r.totals ∧ (r.write w octets).1.notes = r.notes := by
  fun_induction write w r octets with
  | case1 r => exact ⟨rfl, rfl⟩
  | case2 r octets hne call h => exact ⟨totals_record r call, notes_record r call⟩
  | case3 r octets hne call n h ih => rwa [totals_record, notes_record] at ih
  | case4 r octets hne call e h hi ih => rwa [totals_record, notes_record] at ih
  | case5 r octets hne call e h hi => exact ⟨totals_record r call, notes_record r call⟩

/-- let some milliseconds go by -/
def wait (r : Run) (millis : Nat) : Run := { r with clock := r.clock + millis }

/-- sleep for some nanoseconds; the sleep ends on a whole millisecond -/
def sleep (r : Run) (nanos : Nat) : Run := r.wait (Duration.ceilMillis nanos)

theorem totals_wait (r : Run) (millis : Nat) : (r.wait millis).totals = r.totals := rfl

theorem calls_wait (r : Run) (millis : Nat) : (r.wait millis).calls = r.calls := rfl

theorem totals_note (r : Run) (n : Note) : (r.note n).totals = r.totals := rfl

theorem calls_note (r : Run) (n : Note) : (r.note n).calls = r.calls := rfl

/-- the nanoseconds by which the run is ahead of its schedule -/
def lead (rate : Nat) (r : Run) : Nat := expectedElapsed rate r.events - r.elapsed

/-- wait for the schedule, when the run is ahead of it -/
def pace (rate : Nat) (r : Run) : Run :=
  if r.lead rate = 0 then r else (r.note (.ahead r.events (r.lead rate))).sleep (r.lead rate)

theorem pace_totals (rate : Nat) (r : Run) : (r.pace rate).totals = r.totals ∧ (r.pace rate).calls = r.calls := by
  unfold pace
  split
  · exact ⟨rfl, rfl⟩
  · rw [sleep, totals_wait, calls_wait, totals_note, calls_note]
    exact ⟨rfl, rfl⟩

end Run

end CallFeed
