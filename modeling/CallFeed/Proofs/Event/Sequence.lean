/-
The events a factory makes one after another, without end: each takes the next number and starts on the words where the
one before it stopped.

- `events_add`: first some and then more is all of them at once;
- `callId_events`: they are numbered one after another;
- `batch_of_room`: as long as there are numbers, a batch is the lines of the next events;
- `events_withhold`: which words are drawn, and what for, does not depend on the time.
-/
import CallFeed.Event.Factory

namespace CallFeed

/-- the event with its time withheld -/
def Event.withhold (e : Event) : Event := { e with stamp := .withheld }

/-- the same words, and the time always withheld -/
def Source.withhold (src : Source) : Source := { words := src.words }

namespace Factory

variable (f : Factory) (src : Source)

/-- the next events after a counter and a position, and the position after them -/
def events : (count counter pos : Nat) → List Event × Nat
  | 0, _, pos => ([], pos)
  | count + 1, counter, pos =>
    let next := f.event src (counter + 1) pos
    let rest := events count (counter + 1) next.2
    (next.1 :: rest.1, rest.2)

theorem length_events (count counter pos : Nat) : (f.events src count counter pos).1.length = count := by
  induction count generalizing counter pos with
  | zero => rfl
  | succ count ih => simp [events, ih]

theorem events_add (m n counter pos : Nat) :
    f.events src (m + n) counter pos =
      ((f.events src m counter pos).1 ++ (f.events src n (counter + m) (f.events src m counter pos).2).1,
        (f.events src n (counter + m) (f.events src m counter pos).2).2) := by
  induction m generalizing counter pos with
  | zero => simp [events]
  | succ m ih =>
    have hc : counter + 1 + m = counter + (m + 1) := by omega
    rw [Nat.succ_add]
    simp only [events, ih, hc, List.cons_append]

theorem callId_events (count counter pos : Nat) :
    (f.events src count counter pos).1.map Event.callId = List.range' (counter + 1) count := by
  induction count generalizing counter pos with
  | zero => rfl
  | succ count ih =>
    rw [events, List.map_cons, ih, List.range'_succ]
    rfl

/-- **A batch that has numbers enough is the lines of the next events.** -/
theorem batch_of_room {count counter : Nat} (pos : Nat) (h : counter + count ≤ lastCallId) :
    f.batch src count counter pos = ⟨(f.events src count counter pos).1.flatMap Event.line, counter + count,
      (f.events src count counter pos).2, none⟩ := by
  induction count generalizing counter pos with
  | zero => rfl
  | succ count ih =>
    have hc : ¬ lastCallId ≤ counter := by omega
    have hs : counter + 1 + count = counter + (count + 1) := by omega
    simp only [batch, if_neg hc, events, List.flatMap_cons]
    rw [ih _ (by omega), hs]

theorem event_withhold (id pos : Nat) :
    f.event src.withhold id pos = ((f.event src id pos).1.withhold, (f.event src id pos).2) := rfl

theorem events_withhold (count counter pos : Nat) :
    f.events src.withhold count counter pos =
      ((f.events src count counter pos).1.map Event.withhold, (f.events src count counter pos).2) := by
  induction count generalizing counter pos with
  | zero => rfl
  | succ count ih => simp only [events, event_withhold, ih, List.map_cons]

end Factory

end CallFeed
