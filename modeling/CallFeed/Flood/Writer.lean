/-
Where a flood is written to. What a writer answers to each call is laid down beforehand, by the call's number, counted
from one: how long it takes, how often it first says it is not ready, and whether it fails, takes nothing, or takes what
is offered up to its limit.

- `Writer.await_eq`: however often a call is put off, its reply is the same;
- `Writer.le_lastSetback`: no setback comes after the last one laid down.
-/
import CallFeed.IoError
import CallFeed.Text.Basic

namespace CallFeed

/-- what may keep a call from taking anything -/
inductive Setback where
  | error (e : IoError)
  | takesNothing
deriving DecidableEq, Repr

/-- the reply to a call -/
inductive Reply where
  | took (n : Nat)
  | failed (e : IoError)
deriving DecidableEq, Repr

/-- what a poll of a call finds -/
inductive Poll where
  | notReady
  | ready (r : Reply)
deriving DecidableEq, Repr

structure Writer where
  /-- the most one call takes -/
  limit : Option Nat := none
  /-- milliseconds before a call is answered -/
  delay : Nat → Nat := fun _ => 0
  /-- polls that find a call not ready -/
  notReady : Nat → Nat := fun _ => 0
  /-- the calls that are set back -/
  setbacks : List (Nat × Setback) := []
  /-- what flushing fails with -/
  flushError : Option IoError := none

namespace Writer

/-- what sets a call back -/
def setback? (w : Writer) (call : Nat) : Option Setback := (w.setbacks.find? fun s => s.1 == call).map Prod.snd

/-- the largest number of a call in a list of setbacks -/
def lastOf : List (Nat × Setback) → Nat
  | [] => 0
  | s :: rest => max s.1 (lastOf rest)

/-- the last call that is set back -/
def lastSetback (w : Writer) : Nat := lastOf w.setbacks

/-- how many of the octets offered a call takes when nothing sets it back -/
def takes (w : Writer) (offered : Octets) : Nat :=
  match w.limit with
  | none => offered.length
  | some k => (offered.take k).length

/-- the reply to a call -/
def reply (w : Writer) (call : Nat) (offered : Octets) : Reply :=
  match w.setback? call with
  | some (.error e) => .failed e
  | some .takesNothing => .took 0
  | none => .took (w.takes offered)

/-- the poll of a call after so many others -/
def poll (w : Writer) (call : Nat) (offered : Octets) (before : Nat) : Poll :=
  if before < w.notReady call then .notReady else .ready (w.reply call offered)

/-- poll a call until it is ready -/
def await (w : Writer) (call : Nat) (offered : Octets) (before : Nat) : Reply :=
  match h : w.poll call offered before with
  | .ready r => r
  | .notReady => w.await call offered (before + 1)
termination_by w.notReady call - before
decreasing_by
  simp only [poll] at h
  split at h
  · omega
  · cases h

theorem await_eq (w : Writer) (call : Nat) (offered : Octets) (before : Nat) :
    w.await call offered before = w.reply call offered := by
  fun_induction await w call offered before with
  | case1 before r h =>
    simp only [poll] at h
    split at h
    · cases h
    · cases h; rfl
  | case2 before h ih => exact ih

theorem le_lastOf {l : List (Nat × Setback)} {s : Nat × Setback} (h : s ∈ l) : s.1 ≤ lastOf l := by
  induction l with
  | nil => cases h
  | cons a l ih =>
    rcases List.mem_cons.1 h with rfl | h
    · exact Nat.le_max_left _ _
    · exact Nat.le_trans (ih h) (Nat.le_max_right _ _)

theorem le_lastSetback {w : Writer} {call : Nat} {s : Setback} (h : w.setback? call = some s) :
    call ≤ w.lastSetback := by
  obtain ⟨p, hp, _⟩ := Option.map_eq_some_iff.1 h
  have hc : p.1 = call := by simpa using List.find?_some hp
  exact hc ▸ le_lastOf (List.mem_of_find?_eq_some hp)

theorem le_lastSetback_of_failed {w : Writer} {call : Nat} {offered : Octets} {e : IoError}
    (h : w.reply call offered = .failed e) : call ≤ w.lastSetback := by
  simp only [reply] at h
  split at h
  · rename_i hs; exact le_lastSetback hs
  · cases h
  · cases h

theorem takes_le (w : Writer) (offered : Octets) : w.takes offered ≤ offered.length := by
  unfold takes
  split
  · exact Nat.le_refl _
  · simp only [List.length_take]; omega

end Writer

end CallFeed
