/-
What decides how a flood comes out.

A flood asks its writer for one call after another. The first call that takes nothing, or fails and was not just
interrupted, ends it on the spot; where no call does, flushing has the last word. No other error that is laid down for
the writer is ever met.

- `Decided`: what the calls so far say at each point; `step_decided`: every step keeps it;
- `first_failure_decides`: the first call that fails, or else flushing, decides how a flood comes out, and is the last
  thing that happens in it.
-/
import CallFeed.Proofs.Flood.Steps

namespace CallFeed

/-! ## Calls that end a flood, and calls that do not -/

theorem Call.fatal?_eq_none {c : Call} : c.fatal? = none ↔
    (∃ n, 0 < n ∧ c.reply = .took n) ∨ ∃ e, c.reply = .failed e ∧ e.kind = .interrupted := by
  unfold Call.fatal?
  cases c.reply with
  | took n =>
    cases n with
    | zero => simp
    | succ n => simp
  | failed e => simp

theorem IoError.isDisconnect_iff (e : IoError) : e.isDisconnect = true ↔
    e.kind = .brokenPipe ∨ e.kind = .connectionReset ∨ e.kind = .connectionAborted := by
  unfold IoError.isDisconnect
  cases e.kind <;> decide

namespace Run

/-- no call ended the flood -/
def Clear (r : Run) : Prop := ∀ c ∈ r.calls, c.fatal? = none

/-- the calls were answered as the writer lays it down -/
def Answered (w : Writer) (r : Run) : Prop :=
  ∀ i (hi : i < r.calls.size), r.calls[i].reply = w.reply (i + 1) r.calls[i].offered

variable {r s : Run} {w : Writer} {c : Call}

theorem Clear.congr (h : r.Clear) (hc : s.calls = r.calls) : s.Clear := by
  unfold Clear
  rw [hc]
  exact h

theorem Clear.record (h : r.Clear) (hc : c.fatal? = none) : (r.record c).Clear := by
  intro c' hc'
  rw [calls_record, Array.mem_push] at hc'
  rcases hc' with hc' | rfl
  · exact h c' hc'
  · exact hc

theorem Answered.congr (h : r.Answered w) (hc : s.calls = r.calls) : s.Answered w := by
  unfold Answered
  rw [hc]
  exact h

theorem Answered.record (h : r.Answered w) (offered : Octets) : (r.record (r.nextCall w offered)).Answered w := by
  intro i hi
  simp only [calls_record, Array.size_push] at hi
  simp only [calls_record, Array.getElem_push]
  split
  · rename_i hlt
    exact h i hlt
  · have hlast : i = r.calls.size := by omega
    rw [nextCall_eq, hlast]
    rfl

theorem findSome?_of_clear (h : r.Clear) : r.calls.toList.findSome? Call.fatal? = none :=
  List.findSome?_eq_none_iff.2 fun c hc => h c (Array.mem_toList_iff.1 hc)

theorem findSome?_of_fatal {e : IoError} (h : r.Clear) (he : c.fatal? = some e) :
    (r.record c).calls.toList.findSome? Call.fatal? = some e := by
  rw [calls_record, Array.toList_push, List.findSome?_append, findSome?_of_clear h]
  simp [he]

/-- how a flood comes out that ended with an error of the writer, or with none -/
def outcome (r : Run) : Option IoError → Outcome
  | none => .completed r.summary
  | some e =>
    if e.kind = .brokenPipe ∨ e.kind = .connectionReset ∨ e.kind = .connectionAborted then .disconnected r.summary
    else .failed e

theorem outcome_of_error (r : Run) (e : IoError) :
    r.outcome (some e) = if e.isDisconnect then .disconnected r.summary else .failed e := by
  simp only [outcome, e.isDisconnect_iff]

end Run

/-! ## Writers that end no flood -/

/-- an interruption, after which a call is just made again -/
def Setback.isInterruption : Setback → Bool
  | .error e => decide (e.kind = .interrupted)
  | .takesNothing => false

/-- every call takes something of what it is offered or is just interrupted, and flushing does not fail -/
structure Writer.Unfailing (w : Writer) : Prop where
  takes : w.limit ≠ some 0
  interrupted : ∀ s ∈ w.setbacks, s.2.isInterruption = true
  flushes : w.flushError = none

theorem Writer.Unfailing.interrupted_of_setback {w : Writer} (h : w.Unfailing) {call : Nat} {s : Setback}
    (hs : w.setback? call = some s) : ∃ e, s = .error e ∧ e.kind = .interrupted := by
  obtain ⟨p, hp, rfl⟩ := Option.map_eq_some_iff.1 hs
  have hi := h.interrupted p (List.mem_of_find?_eq_some hp)
  cases hp2 : p.2 with
  | error e =>
    rw [hp2] at hi
    exact ⟨e, rfl, of_decide_eq_true hi⟩
  | takesNothing =>
    rw [hp2] at hi
    cases hi

theorem Writer.takes_pos {w : Writer} (h : w.limit ≠ some 0) {offered : Octets} (hne : offered ≠ []) :
    0 < w.takes offered := by
  have hlen : 0 < offered.length := List.length_pos_iff.2 hne
  unfold Writer.takes
  split
  · exact hlen
  · rename_i k hk
    have hpos : 0 < k := by
      rw [Nat.pos_iff_ne_zero]
      rintro rfl
      exact h hk
    rw [List.length_take]
    exact Nat.lt_min.2 ⟨hpos, hlen⟩

theorem Run.fatal?_nextCall {w : Writer} (h : w.Unfailing) (r : Run) {offered : Octets} (hne : offered ≠ []) :
    (r.nextCall w offered).fatal? = none := by
  rw [r.nextCall_eq, Call.fatal?_eq_none]
  simp only [Run.answered, Writer.reply]
  cases hs : w.setback? (r.calls.size + 1) with
  | none => exact Or.inl ⟨_, Writer.takes_pos h.takes hne, rfl⟩
  | some s =>
    obtain ⟨e, rfl, he⟩ := h.interrupted_of_setback hs
    exact Or.inr ⟨e, rfl, he⟩

namespace Flooder

/-! ## What decides -/

/-- the flood was flushed with the run, none of whose calls had ended it -/
def FlushedAt (f : Flooder) (src : Source) (w : Writer) (e : Option IoError) (run : Run) : Prop :=
  ∃ r, f.Reaches src w .start ⟨r, .flush⟩ ∧ r.Clear ∧ w.flushError = e ∧ run = { r with flushed := true }

/-- the run ends with the first call that ends a flood -/
def CutAt (f : Flooder) (src : Source) (w : Writer) (e : IoError) (run : Run) : Prop :=
  ∃ r p rest, f.Reaches src w .start ⟨r, .write p rest⟩ ∧ rest ≠ [] ∧ r.Clear ∧ r.flushed = false ∧
    (r.nextCall w rest).fatal? = some e ∧ run = r.record (r.nextCall w rest)

theorem FlushedAt.first_failure {f : Flooder} {src : Source} {w : Writer} {e : Option IoError} {run : Run}
    (h : f.FlushedAt src w e run) :
    run.calls.toList.findSome? Call.fatal? = none ∧ run.flushed = true ∧ w.flushError = e := by
  obtain ⟨r, -, hr, he, rfl⟩ := h
  exact ⟨Run.findSome?_of_clear hr, rfl, he⟩

theorem CutAt.first_failure {f : Flooder} {src : Source} {w : Writer} {e : IoError} {run : Run}
    (h : f.CutAt src w e run) : run.calls.toList.findSome? Call.fatal? = some e ∧ run.flushed = false := by
  obtain ⟨r, p, rest, -, -, hr, hf, he, rfl⟩ := h
  exact ⟨Run.findSome?_of_fatal hr he, hf⟩

/-- what the calls so far say: nothing ended the flood before it was over -/
def Decided (f : Flooder) (src : Source) (w : Writer) (p : Point) : Prop :=
  match p.stage with
  | .ended .completed => f.FlushedAt src w none p.run
  | .ended (.broken e) => f.FlushedAt src w (some e) p.run ∨ f.CutAt src w e p.run
  | .ended (.stopped _) => True
  | _ => p.run.Clear ∧ p.run.flushed = false

variable {f : Flooder} {src : Source} {w : Writer}

/-- **A step keeps what decides.** -/
theorem step_decided {p q : Point} (hp : f.Reaches src w .start p) (hs : f.Step src w p q)
    (h : f.Decided src w p) : f.Decided src w q := by
  cases hs with
  | call hne hok =>
    obtain ⟨hclear, hf⟩ := h
    exact ⟨hclear.record hok, hf⟩
  | fail hne he =>
    obtain ⟨hclear, hf⟩ := h
    exact Or.inr ⟨_, _, _, hp, hne, hclear, hf, he, rfl⟩
  | beaten =>
    obtain ⟨hclear, hf⟩ := h
    exact ⟨hclear.congr rfl, hf⟩
  | counted =>
    obtain ⟨hclear, hf⟩ := h
    exact ⟨hclear.congr rfl, hf⟩
  | close ht => exact h
  | @draw r r' text ht hd =>
    obtain ⟨hclear, hf⟩ := h
    obtain ⟨-, rfl⟩ := draw_eq hd
    exact ⟨hclear.congr rfl, hf⟩
  | spent ht hd => trivial
  | @pace r =>
    obtain ⟨hclear, hf⟩ := h
    exact ⟨hclear.congr (Run.pace_totals f.rate r).2, (Run.flushed_pace f.rate r).trans hf⟩
  | skip hb => exact h
  | beat hb =>
    obtain ⟨hclear, hf⟩ := h
    exact ⟨hclear.congr rfl, hf⟩
  | unknown hb => trivial
  | @flush r =>
    obtain ⟨hclear, hf⟩ := h
    unfold Run.finish Finish.point
    cases he : w.flushError with
    | none => exact ⟨r, hp, hclear, he, rfl⟩
    | some e => exact Or.inl ⟨r, hp, hclear, he, rfl⟩

theorem decided_flood (f : Flooder) (src : Source) (w : Writer) : f.Decided src w (f.flood src w).point := by
  refine Reaches.keeps_from_start ?_ (fun _ _ hp hs hd => step_decided hp hs hd) (f.reaches_flood src w)
  exact ⟨fun c hc => absurd hc (Array.not_mem_empty c), rfl⟩

/-- the outcome of a flood that came to its end is that of the error it was cut or flushed with, or of none -/
theorem outcome_of_ok {o : Outcome} (h : (f.flood src w).outcome = .ok o) :
    ∃ e, o = (f.flood src w).run.outcome e ∧
      (f.FlushedAt src w e (f.flood src w).run ∨ ∃ e', e = some e' ∧ f.CutAt src w e' (f.flood src w).run) := by
  have hd := f.decided_flood src w
  unfold Decided Finish.point at hd
  unfold Finish.outcome at h
  cases he : (f.flood src w).ending with
  | completed =>
    rw [he] at hd h
    exact ⟨none, (Except.ok.inj h).symm, Or.inl hd⟩
  | broken e =>
    rw [he] at hd h
    refine ⟨some e, (Except.ok.inj h).symm.trans ((f.flood src w).run.outcome_of_error e).symm, ?_⟩
    rcases hd with hflush | hcut
    · exact Or.inl hflush
    · exact Or.inr ⟨e, rfl, hcut⟩
  | stopped fault =>
    rw [he] at h
    cases h

end Flooder

end CallFeed
