/-
Flooding one connection.

A flood writes a heartbeat and then, as long as its time is not over, rounds: a batch of events is drawn and written and
counted, the run waits for its schedule, and a heartbeat follows where one is due. At the end the writer is flushed. The
first error of the writer ends it, and so does an overflow.

- `Flooder.round_counter`: a round that ended well has numbered a batch of events, so the rounds come to an end;
- `Finish.outcome`: how a flood came out.
-/
import CallFeed.Event.Factory
import CallFeed.Flood.Run
import CallFeed.Flood.Summary

namespace CallFeed

/-- what floods a connection -/
structure Flooder where
  rate : Nat
  /-- nanoseconds -/
  duration : Nat
  factory : Factory
  rate_ge : minRate ≤ rate

/-- what ended a flood -/
inductive Ending where
  | completed
  | broken (e : IoError)
  | stopped (f : Fault)
deriving DecidableEq, Repr

/-- a flood that is over -/
structure Finish where
  run : Run
  ending : Ending

/-- how a flood came out: it ran its time, or the client went away, or the writer failed otherwise -/
inductive Outcome where
  | completed (s : Summary)
  | disconnected (s : Summary)
  | failed (e : IoError)
deriving DecidableEq, Repr

def Outcome.isCompleted : Outcome → Bool
  | completed _ => true
  | _ => false

namespace Run

def summary (r : Run) : Summary := ⟨r.events, r.batches, r.heartbeats, r.elapsed⟩

/-- flush the writer, which ends the flood -/
def finish (w : Writer) (r : Run) : Finish :=
  ⟨{ r with flushed := true }, match w.flushError with
    | none => .completed
    | some e => .broken e⟩

/-- write a heartbeat and count it -/
def beat (w : Writer) (r : Run) : Except Finish Run :=
  match r.write w (utf8 heartbeat) with
  | (r, some e) => .error ⟨r, .broken e⟩
  | (r, none) => .ok { r with heartbeats := r.heartbeats + 1 }

theorem beat_counter {w : Writer} {r r' : Run} (h : r.beat w = .ok r') : r'.counter = r.counter := by
  simp only [beat] at h
  split at h
  · cases h
  · rename_i r1 hwrite
    cases h
    have := (write_totals w r (utf8 heartbeat)).1
    rw [hwrite] at this
    show r1.counter = r.counter
    exact counter_eq_of_totals this

end Run

def Finish.outcome (f : Finish) : Except Fault Outcome :=
  match f.ending with
  | .completed => .ok (.completed f.run.summary)
  | .broken e => .ok (if e.isDisconnect then .disconnected f.run.summary else .failed e)
  | .stopped fault => .error fault

namespace Flooder

/-- a flooder, unless the rate is too low -/
def of (rate duration : Nat) (factory : Factory) : Except Fault Flooder :=
  if h : minRate ≤ rate then .ok ⟨rate, duration, factory, h⟩ else .error (.rateTooLow rate minRate)

def batchSize (f : Flooder) : Nat := CallFeed.batchSize f.rate

theorem batchSize_pos (f : Flooder) : 0 < f.batchSize := CallFeed.batchSize_pos f.rate_ge

/-- draw the next batch -/
def draw (f : Flooder) (src : Source) (r : Run) : Run × Text × Option Fault :=
  let b := f.factory.batch src f.batchSize r.counter r.pos
  ({ r with counter := b.counter, pos := b.pos }, b.text, b.fault)

/-- a batch drawn without a fault has numbered its events -/
theorem draw_counter {f : Flooder} {src : Source} {r r' : Run} {text : Text} (h : f.draw src r = (r', text, none)) :
    r'.counter = r.counter + f.batchSize ∧ r'.counter ≤ lastCallId := by
  have hfault : (f.factory.batch src f.batchSize r.counter r.pos).fault = none := congrArg (·.2.2) h
  obtain ⟨hcount, hroom⟩ := Factory.batch_counter _ _ hfault
  have hr : r'.counter = (f.factory.batch src f.batchSize r.counter r.pos).counter := by
    rw [← show (f.draw src r).1 = r' from congrArg (·.1) h]
    rfl
  rw [hr, hcount]
  exact ⟨rfl, hroom f.batchSize_pos⟩

/-- count a batch that was written -/
def count (f : Flooder) (r : Run) : Run := { r with events := r.events + f.batchSize, batches := r.batches + 1 }

theorem counter_count (f : Flooder) (r : Run) : (f.count r).counter = r.counter := rfl

/-- one round -/
def round (f : Flooder) (src : Source) (w : Writer) (r : Run) : Except Finish Run :=
  match f.draw src r with
  | (r, _, some fault) => .error ⟨r, .stopped fault⟩
  | (r, text, none) =>
    match r.write w (utf8 text) with
    | (r, some e) => .error ⟨r, .broken e⟩
    | (r, none) =>
      let r := (f.count r).pace f.rate
      match heartbeatDue f.rate r.events with
      | .error fault => .error ⟨r, .stopped fault⟩
      | .ok false => .ok r
      | .ok true => (r.note (.heartbeat r.events)).beat w

/-- a round that ended well has numbered a batch of events, and there were numbers for them -/
theorem round_counter {f : Flooder} {src : Source} {w : Writer} {r r' : Run} (h : f.round src w r = .ok r') :
    r'.counter = r.counter + f.batchSize ∧ r'.counter ≤ lastCallId := by
  simp only [round] at h
  split at h
  · cases h
  · rename_i r1 text hdraw
    have hr1 := draw_counter hdraw
    split at h
    · cases h
    · rename_i r2 hwrite
      have hr2 : r2.counter = r1.counter := by
        have := (Run.write_totals w r1 (utf8 text)).1
        rw [hwrite] at this
        exact Run.counter_eq_of_totals this
      have hr3 : ((f.count r2).pace f.rate).counter = r2.counter :=
        (Run.counter_eq_of_totals (Run.pace_totals _ _).1).trans (counter_count f r2)
      generalize (f.count r2).pace f.rate = r3 at h hr3
      have hr4 : r'.counter = r3.counter := by
        split at h
        · cases h
        · cases h; rfl
        · exact (Run.beat_counter h).trans (Run.counter_eq_of_totals (Run.totals_note r3 _))
      rw [hr4, hr3, hr2]
      exact hr1

/-- rounds until the time is over -/
def rounds (f : Flooder) (src : Source) (w : Writer) (r : Run) : Except Finish Run :=
  if f.duration ≤ r.elapsed then .ok r
  else
    match _h : f.round src w r with
    | .error done => .error done
    | .ok r => f.rounds src w r
termination_by lastCallId - r.counter
decreasing_by
  have := round_counter _h
  have := f.batchSize_pos
  omega

/-- flood a writer -/
def flood (f : Flooder) (src : Source) (w : Writer) : Finish :=
  match Run.beat w {} with
  | .error done => done
  | .ok r =>
    match f.rounds src w r with
    | .error done => done
    | .ok r => r.finish w

end Flooder

end CallFeed
