/-
The course of a feed: all that can ever be sent, and in which order.

It is settled by the rate, the factory of the events and where these are drawn from, and by nothing else: a heartbeat
first, and then round after round a batch, with a heartbeat after it where the events so far come to full periods. No
clock and no writer has a part in it.

- `order`: the portions of the first rounds, one after another, and `opening`: their octets;
- `feed`: the octets without end;
- `take_feed_of_opening`: every start of an opening is a start of the feed.
-/
import Mathlib.Data.Stream.Init
import CallFeed.Flood.Schedule
import CallFeed.Proofs.Event.Sequence

namespace CallFeed

/-- what a flood writes at one go -/
inductive Portion where
  | heartbeat
  /-- the batch that comes after so many others -/
  | batch (n : Nat)
deriving DecidableEq, Repr

def Portion.isBatch : Portion → Bool
  | heartbeat => false
  | batch _ => true

namespace Feed

/-- what settles the octets of a feed -/
structure Course where
  rate : Nat
  factory : Factory
  source : Source

/-- how many of the portions are batches -/
def batchCount (ps : List Portion) : Nat := ps.countP Portion.isBatch

theorem batchCount_append (ps qs : List Portion) : batchCount (ps ++ qs) = batchCount ps + batchCount qs :=
  List.countP_append

theorem batchCount_heartbeat : batchCount [.heartbeat] = 0 := rfl

theorem batchCount_batch (n : Nat) : batchCount [.batch n] = 1 := rfl

namespace Course

variable (c : Course)

/-- events to a batch -/
def size : Nat := batchSize c.rate

/-- the first events -/
def events (n : Nat) : List Event := (c.factory.events c.source n 0 0).1

/-- the words the first events take -/
def position (n : Nat) : Nat := (c.factory.events c.source n 0 0).2

/-- the events of the batch that comes after so many others -/
def batch (n : Nat) : List Event :=
  (c.factory.events c.source c.size (n * c.size) (c.position (n * c.size))).1

theorem length_batch (n : Nat) : (c.batch n).length = c.size := Factory.length_events ..

/-- after one more batch -/
theorem events_succ_batch (n : Nat) : c.events ((n + 1) * c.size) = c.events (n * c.size) ++ c.batch n := by
  have h := Factory.events_add c.factory c.source (n * c.size) c.size 0 0
  rw [← Nat.succ_mul, Nat.zero_add] at h
  rw [events, h]
  rfl

theorem position_succ_batch (n : Nat) : c.position ((n + 1) * c.size) =
    (c.factory.events c.source c.size (n * c.size) (c.position (n * c.size))).2 := by
  have h := Factory.events_add c.factory c.source (n * c.size) c.size 0 0
  rw [← Nat.succ_mul, Nat.zero_add] at h
  rw [position, h]
  rfl

/-- the lines of a portion -/
def lines : Portion → List Octets
  | .heartbeat => [utf8 heartbeat]
  | .batch n => (c.batch n).map fun e => utf8 e.line

def octets (p : Portion) : Octets := (c.lines p).flatten

theorem octets_heartbeat : c.octets .heartbeat = utf8 heartbeat := by simp [octets, lines]

theorem utf8_flatMap_line (es : List Event) : utf8 (es.flatMap Event.line) = (es.map fun e => utf8 e.line).flatten := by
  induction es with
  | nil => rfl
  | cons e es ih => rw [List.flatMap_cons, utf8_append, ih, List.map_cons, List.flatten_cons]

/-- a heartbeat follows the batch that comes after so many others -/
def Beats (n : Nat) : Prop := (n + 1) * c.size % (c.rate * heartbeatSeconds) = 0

instance (n : Nat) : Decidable (c.Beats n) := inferInstanceAs (Decidable (_ = 0))

/-- the portions of one round -/
def round (n : Nat) : List Portion := if c.Beats n then [.batch n, .heartbeat] else [.batch n]

/-- the portions of the first rounds, after the heartbeat that comes before them -/
def order : Nat → List Portion
  | 0 => [.heartbeat]
  | n + 1 => order n ++ c.round n

/-- the octets of the first rounds -/
def opening (n : Nat) : Octets := (c.order n).flatMap c.octets

theorem batchCount_order (n : Nat) : batchCount (c.order n) = n := by
  induction n with
  | zero => rfl
  | succ n ih =>
    have hr : batchCount (c.round n) = 1 := by unfold round; split <;> rfl
    rw [order, batchCount_append, ih, hr]

theorem opening_succ (n : Nat) : c.opening (n + 1) = c.opening n ++ (c.round n).flatMap c.octets := by
  rw [opening, order, List.flatMap_append]
  rfl

theorem opening_isPrefix {m n : Nat} (h : m ≤ n) : c.opening m <+: c.opening n := by
  induction h with
  | refl => exact List.prefix_refl _
  | step _ ih => exact ih.trans (by rw [opening_succ]; exact List.prefix_append _ _)

/-! ## The feed without end -/

theorem length_line_pos (e : Event) : 0 < (utf8 e.line).length := by
  simp [Event.line, utf8_append, utf8_cons, String.utf8EncodeChar]

theorem length_batch_octets (n : Nat) : c.size ≤ (c.octets (.batch n)).length := by
  have hlen (ls : List Octets) (h : ∀ l ∈ ls, 0 < l.length) : ls.length ≤ ls.flatten.length := by
    induction ls with
    | nil => exact Nat.le_refl _
    | cons l ls ih =>
      have hl := h l List.mem_cons_self
      have hls := ih fun l' hl' => h l' (List.mem_cons_of_mem l hl')
      simp only [List.length_cons, List.flatten_cons, List.length_append]
      omega
  have h := hlen (c.lines (.batch n)) fun l hl => by
    obtain ⟨e, -, rfl⟩ := List.mem_map.1 hl
    exact length_line_pos e
  rwa [lines, List.length_map, length_batch] at h

theorem lt_length_opening (hs : 0 < c.size) (n : Nat) : n < (c.opening n).length := by
  induction n with
  | zero =>
    rw [opening, order, List.flatMap_singleton, octets_heartbeat]
    decide
  | succ n ih =>
    have hb := c.length_batch_octets n
    have hr : (c.octets (.batch n)).length ≤ ((c.round n).flatMap c.octets).length := by
      unfold round
      split <;> simp
    rw [opening_succ, List.length_append]
    omega

/-- the octets of a feed, without end -/
def feed : Stream' UInt8 := fun i => (c.opening i)[i]?.getD 0

/-- **What an opening starts with, the feed starts with.** -/
theorem take_feed_of_opening (hs : 0 < c.size) {s : Octets} {n : Nat} (h : s <+: c.opening n) :
    c.feed.take s.length = s := by
  apply List.ext_getElem?
  intro i
  by_cases hi : i < s.length
  · have hin : s[i]? = (c.opening n)[i]? := by
      obtain ⟨t, ht⟩ := h
      rw [← ht, List.getElem?_append_left hi]
    have hlt := c.lt_length_opening hs i
    have hsame : (c.opening n)[i]? = (c.opening i)[i]? := by
      have hn : i < (c.opening n).length := Nat.lt_of_lt_of_le hi h.length_le
      rcases Nat.le_total i n with hle | hle
      · obtain ⟨t, ht⟩ := c.opening_isPrefix hle
        rw [← ht, List.getElem?_append_left hlt]
      · obtain ⟨t, ht⟩ := c.opening_isPrefix hle
        rw [← ht, List.getElem?_append_left hn]
    rw [Stream'.getElem?_take hi, hin, hsame, List.getElem?_eq_getElem hlt]
    simp [feed, Stream'.get, List.getElem?_eq_getElem hlt]
  · rw [List.getElem?_eq_none (by simpa using Nat.le_of_not_lt hi),
      List.getElem?_eq_none (Nat.le_of_not_lt hi)]

end Course

end Feed

end CallFeed
