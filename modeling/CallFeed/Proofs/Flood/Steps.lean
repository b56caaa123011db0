/-
A flood taken in single steps: one call of the writer, one look at the clock, one wait at a time.

`Flooder.Step` has a rule for each thing a flood can do. `Flooder.flood` is the whole way from the start to the end, so
what every step keeps holds at every point a flood comes to, its end included.

- `reaches_flood`: the steps lead from the start to where the flood ends;
- `step_rightUnique`, `not_step_ended`: there is one way to go on from a point, and none once the flood is over;
- `Reaches.keeps`: what every step keeps, the way keeps;
- `step`: the step from a point worked out, and `flood_of_steps`: a flood worked out step by step.
-/
import Mathlib.Logic.Relation
import CallFeed.Flood.Flooder
import CallFeed.Proofs.Feed.Course

namespace CallFeed

/-! ## Single calls -/

/-- the error a call ends the flood with: it took nothing, or it failed and was not just interrupted -/
def Call.fatal? (c : Call) : Option IoError :=
  match c.reply with
  | .took 0 => some .writeZero
  | .took (_ + 1) => none
  | .failed e => if e.kind = .interrupted then none else some e

/-- the octets a call was offered and did not take -/
def Call.left (c : Call) : Octets :=
  match c.reply with
  | .took n => c.offered.drop n
  | .failed _ => c.offered

theorem Call.taken_append_left (c : Call) : c.taken ++ c.left = c.offered := by
  unfold Call.taken Call.left
  cases c.reply with
  | took n => exact List.take_append_drop n c.offered
  | failed e => rfl

theorem Call.taken_of_fatal {c : Call} {e : IoError} (h : c.fatal? = some e) : c.taken = [] := by
  unfold Call.fatal? at h
  unfold Call.taken
  cases hr : c.reply with
  | took n =>
    cases n with
    | zero => rfl
    | succ n => rw [hr] at h; cases h
  | failed e => rfl

/-- the next call, answered at once -/
def Run.answered (r : Run) (w : Writer) (offered : Octets) : Call :=
  let number := r.calls.size + 1
  ⟨r.clock + w.delay number, offered, w.reply number offered⟩

/-- being put off changes nothing about a call -/
theorem Run.nextCall_eq (r : Run) (w : Writer) (offered : Octets) : r.nextCall w offered = r.answered w offered := by
  rw [nextCall, answered, Writer.await_eq]

theorem Run.flushed_pace (rate : Nat) (r : Run) : (r.pace rate).flushed = r.flushed := by
  unfold Run.pace
  split
  · rfl
  · rw [Run.sleep, Run.wait, Run.note]

namespace Flooder

variable {f : Flooder} {src : Source} {r r' : Run} {text : Text}

/-- drawing takes the next numbers and words, and gives the lines of the next batch -/
theorem draw_eq (h : f.draw src r = (r', text, none)) :
    text = (f.factory.events src f.batchSize r.counter r.pos).1.flatMap Event.line ∧
      r' = { r with counter := r.counter + f.batchSize
                    pos := (f.factory.events src f.batchSize r.counter r.pos).2 } := by
  have hroom : r.counter + f.batchSize ≤ lastCallId := by
    obtain ⟨h1, h2⟩ := draw_counter h
    rwa [h1] at h2
  unfold draw at h
  rw [Factory.batch_of_room _ _ _ hroom] at h
  cases h
  exact ⟨rfl, rfl⟩

/-- drawing, even where it stops, changes where numbering and drawing stand and nothing else -/
theorem run_of_draw {fault : Option Fault} (h : f.draw src r = (r', text, fault)) :
    ∃ counter pos, r' = { r with counter := counter, pos := pos } := by
  unfold draw at h
  obtain rfl := (Prod.mk.inj h).1
  exact ⟨_, _, rfl⟩

theorem calls_draw {fault : Option Fault} (h : f.draw src r = (r', text, fault)) : r'.calls = r.calls := by
  obtain ⟨counter, pos, rfl⟩ := run_of_draw h
  rfl

end Flooder

/-! ## Points and steps -/

/-- what a flood is about to do -/
inductive Stage where
  /-- write what is left of a portion -/
  | write (p : Portion) (rest : Octets)
  /-- look whether its time is over -/
  | look
  /-- wait for its schedule -/
  | pace
  /-- see whether a heartbeat is due -/
  | beat
  | flush
  | ended (e : Ending)

/-- where a flood stands between two steps -/
structure Point where
  run : Run
  stage : Stage

namespace Point

def start : Point := ⟨{}, .write .heartbeat (utf8 heartbeat)⟩

/-- where a write has led to -/
def wrote (p : Portion) : Run × Option IoError → Point
  | (r, none) => ⟨r, .write p []⟩
  | (r, some e) => ⟨r, .ended (.broken e)⟩

/-- where something that may end the flood has led to -/
def after (next : Stage) : Except Finish Run → Point
  | .ok r => ⟨r, next⟩
  | .error d => ⟨d.run, .ended d.ending⟩

/-- where a flood has come to its end -/
def finish? : Point → Option Finish
  | ⟨r, .ended e⟩ => some ⟨r, e⟩
  | _ => none

end Point

def Finish.point (d : Finish) : Point := ⟨d.run, .ended d.ending⟩

/-- a flood that came out somehow was not stopped -/
theorem Finish.not_stopped_of_ok {d : Finish} {o : Outcome} (h : d.outcome = .ok o) (fault : Fault) :
    d.ending ≠ .stopped fault := by
  intro he
  rw [outcome, he] at h
  cases h

theorem Finish.outcome_eq_error_iff {d : Finish} {fault : Fault} :
    d.outcome = .error fault ↔ d.ending = .stopped fault := by
  unfold Finish.outcome
  cases d.ending with
  | completed => simp
  | broken e => simp
  | stopped fault' => simp

/-- a flood that was not stopped came out somehow -/
theorem Finish.exists_ok_of_not_stopped {d : Finish} (h : ∀ fault, d.ending ≠ .stopped fault) :
    ∃ o, d.outcome = .ok o := by
  cases ho : d.outcome with
  | ok o => exact ⟨o, rfl⟩
  | error fault => exact absurd (outcome_eq_error_iff.1 ho) (h fault)

namespace Flooder

/-- one step of a flood -/
inductive Step (f : Flooder) (src : Source) (w : Writer) : Point → Point → Prop where
  | call {r : Run} {p : Portion} {rest : Octets} (hne : rest ≠ []) (hok : (r.nextCall w rest).fatal? = none) :
      Step f src w ⟨r, .write p rest⟩ ⟨r.record (r.nextCall w rest), .write p (r.nextCall w rest).left⟩
  | fail {r : Run} {p : Portion} {rest : Octets} {e : IoError} (hne : rest ≠ [])
      (he : (r.nextCall w rest).fatal? = some e) :
      Step f src w ⟨r, .write p rest⟩ ⟨r.record (r.nextCall w rest), .ended (.broken e)⟩
  | beaten {r : Run} : Step f src w ⟨r, .write .heartbeat []⟩ ⟨{ r with heartbeats := r.heartbeats + 1 }, .look⟩
  | counted {r : Run} {n : Nat} : Step f src w ⟨r, .write (.batch n) []⟩ ⟨f.count r, .pace⟩
  | close {r : Run} (ht : f.duration ≤ r.elapsed) : Step f src w ⟨r, .look⟩ ⟨r, .flush⟩
  | draw {r r' : Run} {text : Text} (ht : r.elapsed < f.duration) (hd : f.draw src r = (r', text, none)) :
      Step f src w ⟨r, .look⟩ ⟨r', .write (.batch r.batches) (utf8 text)⟩
  | spent {r r' : Run} {text : Text} {fault : Fault} (ht : r.elapsed < f.duration)
      (hd : f.draw src r = (r', text, some fault)) : Step f src w ⟨r, .look⟩ ⟨r', .ended (.stopped fault)⟩
  | pace {r : Run} : Step f src w ⟨r, .pace⟩ ⟨r.pace f.rate, .beat⟩
  | skip {r : Run} (hb : heartbeatDue f.rate r.events = .ok false) : Step f src w ⟨r, .beat⟩ ⟨r, .look⟩
  | beat {r : Run} (hb : heartbeatDue f.rate r.events = .ok true) :
      Step f src w ⟨r, .beat⟩ ⟨r.note (.heartbeat r.events), .write .heartbeat (utf8 heartbeat)⟩
  | unknown {r : Run} {fault : Fault} (hb : heartbeatDue f.rate r.events = .error fault) :
      Step f src w ⟨r, .beat⟩ ⟨r, .ended (.stopped fault)⟩
  | flush {r : Run} : Step f src w ⟨r, .flush⟩ (r.finish w).point

/-- some steps lead from one point to another -/
abbrev Reaches (f : Flooder) (src : Source) (w : Writer) : Point → Point → Prop := Relation.ReflTransGen (f.Step src w)

section

variable {f : Flooder} {src : Source} {w : Writer}

/-- **What every step keeps, the way keeps.** -/
theorem Reaches.keeps {P : Point → Prop} (hstep : ∀ p q, f.Step src w p q → P p → P q) {p q : Point}
    (h : f.Reaches src w p q) (hp : P p) : P q := by
  induction h with
  | refl => exact hp
  | tail _ hs ih => exact hstep _ _ hs ih

/-- what every step on the way from the start keeps, holds wherever it leads -/
theorem Reaches.keeps_from_start {P : Point → Prop} (hstart : P .start)
    (hstep : ∀ p q, f.Reaches src w .start p → f.Step src w p q → P p → P q) {p : Point}
    (h : f.Reaches src w .start p) : P p := by
  induction h with
  | refl => exact hstart
  | tail hp hs ih => exact hstep _ _ hp hs ih

theorem step_rightUnique : Relator.RightUnique (f.Step src w) := by
  intro p q q' h h'
  cases h <;> cases h' <;> first | rfl | omega | simp_all

theorem not_step_ended {r : Run} {e : Ending} (q : Point) : ¬ f.Step src w ⟨r, .ended e⟩ q := by
  intro h
  cases h

/-- a point from which the flood cannot go on is where every way ends that passes it -/
theorem eq_of_reaches_ended {p : Point} {r r' : Run} {e e' : Ending} (h : f.Reaches src w p ⟨r, .ended e⟩)
    (h' : f.Reaches src w p ⟨r', .ended e'⟩) : (⟨r, .ended e⟩ : Point) = ⟨r', .ended e'⟩ := by
  have hend (s s' : Run) (a a' : Ending) (hs : f.Reaches src w ⟨s, .ended a⟩ ⟨s', .ended a'⟩) :
      (⟨s, .ended a⟩ : Point) = ⟨s', .ended a'⟩ := by
    rcases hs.cases_head with heq | ⟨q, hq, _⟩
    · exact heq
    · exact absurd hq (not_step_ended q)
  rcases h.total_of_right_unique step_rightUnique h' with hs | hs
  · exact hend _ _ _ _ hs
  · exact (hend _ _ _ _ hs).symm

end

/-! ## The steps of a whole flood -/

section

variable (f : Flooder) (src : Source) (w : Writer)

theorem reaches_write (p : Portion) (r : Run) (octets : Octets) :
    f.Reaches src w ⟨r, .write p octets⟩ (Point.wrote p (r.write w octets)) := by
  fun_induction Run.write w r octets with
  | case1 r => exact .refl
  | case2 r octets hne call h =>
    have he : (r.nextCall w octets).fatal? = some .writeZero := by simp only [Call.fatal?]; rw [h]
    exact .single (.fail hne he)
  | case3 r octets hne call n h ih =>
    have hok : (r.nextCall w octets).fatal? = none := by simp only [Call.fatal?]; rw [h]
    have hleft : (r.nextCall w octets).left = octets.drop (n + 1) := by simp only [Call.left]; rw [h]; rfl
    have hs : f.Step src w ⟨r, .write p octets⟩ ⟨r.record (r.nextCall w octets), .write p (r.nextCall w octets).left⟩ :=
      .call hne hok
    rw [hleft] at hs
    exact .head hs ih
  | case4 r octets hne call e h hi ih =>
    have hok : (r.nextCall w octets).fatal? = none := by simp only [Call.fatal?]; rw [h]; simp [hi]
    have hleft : (r.nextCall w octets).left = octets := by simp only [Call.left]; rw [h]; rfl
    have hs : f.Step src w ⟨r, .write p octets⟩ ⟨r.record (r.nextCall w octets), .write p (r.nextCall w octets).left⟩ :=
      .call hne hok
    rw [hleft] at hs
    exact .head hs ih
  | case5 r octets hne call e h hi =>
    have he : (r.nextCall w octets).fatal? = some e := by simp only [Call.fatal?]; rw [h]; simp [hi]
    exact .single (.fail hne he)

theorem reaches_beat (r : Run) :
    f.Reaches src w ⟨r, .write .heartbeat (utf8 heartbeat)⟩ (Point.after .look (r.beat w)) := by
  have hw := f.reaches_write src w .heartbeat r (utf8 heartbeat)
  unfold Run.beat
  cases hr : r.write w (utf8 heartbeat) with
  | mk r' e =>
    rw [hr] at hw
    cases e with
    | none => exact .tail hw .beaten
    | some e => exact hw

theorem reaches_round {r : Run} (ht : r.elapsed < f.duration) :
    f.Reaches src w ⟨r, .look⟩ (Point.after .look (f.round src w r)) := by
  unfold round
  split
  · rename_i r1 text fault hd
    exact .single (.spent ht hd)
  · rename_i r1 text hd
    have hw := Relation.ReflTransGen.head (.draw ht hd)
      (f.reaches_write src w (.batch r.batches) r1 (utf8 text))
    split
    · rename_i r2 e hr
      rw [hr] at hw
      exact hw
    · rename_i r2 hr
      rw [hr] at hw
      have hp := (hw.tail .counted).tail .pace
      dsimp only
      split
      · rename_i fault hb
        exact hp.tail (.unknown hb)
      · rename_i hb
        exact hp.tail (.skip hb)
      · rename_i hb
        exact (hp.tail (.beat hb)).trans (f.reaches_beat src w _)

theorem reaches_rounds (r : Run) : f.Reaches src w ⟨r, .look⟩ (Point.after .flush (f.rounds src w r)) := by
  fun_induction rounds f src w r with
  | case1 r ht => exact .single (.close ht)
  | case2 r ht d h =>
    have hr := f.reaches_round src w (Nat.lt_of_not_le ht)
    rw [h] at hr
    exact hr
  | case3 r ht r' h ih =>
    have hr := f.reaches_round src w (Nat.lt_of_not_le ht)
    rw [h] at hr
    exact hr.trans ih

/-- **The steps lead from the start to where the flood ends.** -/
theorem reaches_flood : f.Reaches src w .start (f.flood src w).point := by
  have hb := f.reaches_beat src w {}
  unfold flood
  split
  · rename_i d h
    rw [h] at hb
    exact hb
  · rename_i r h
    rw [h] at hb
    have hr := f.reaches_rounds src w r
    split
    · rename_i d h'
      rw [h'] at hr
      exact hb.trans hr
    · rename_i r' h'
      rw [h'] at hr
      exact (hb.trans hr).tail .flush

/-! ## Steps worked out -/

/-- the step from a point; a flood that is over stays where it is -/
def step (p : Point) : Point :=
  let r := p.run
  match p.stage with
  | .write .heartbeat [] => ⟨{ r with heartbeats := r.heartbeats + 1 }, .look⟩
  | .write (.batch _) [] => ⟨f.count r, .pace⟩
  | .write q (b :: s) =>
    let call := r.answered w (b :: s)
    match call.fatal? with
    | none => ⟨r.record call, .write q call.left⟩
    | some e => ⟨r.record call, .ended (.broken e)⟩
  | .look =>
    if f.duration ≤ r.elapsed then ⟨r, .flush⟩
    else
      match f.draw src r with
      | (r', text, none) => ⟨r', .write (.batch r.batches) (utf8 text)⟩
      | (r', _, some fault) => ⟨r', .ended (.stopped fault)⟩
  | .pace => ⟨r.pace f.rate, .beat⟩
  | .beat =>
    match heartbeatDue f.rate r.events with
    | .ok false => ⟨r, .look⟩
    | .ok true => ⟨r.note (.heartbeat r.events), .write .heartbeat (utf8 heartbeat)⟩
    | .error fault => ⟨r, .ended (.stopped fault)⟩
  | .flush => (r.finish w).point
  | .ended e => ⟨r, .ended e⟩

theorem reaches_step (p : Point) : f.Reaches src w p (f.step src w p) := by
  obtain ⟨r, stage⟩ := p
  cases stage with
  | write q rest =>
    cases rest with
    | nil =>
      cases q with
      | heartbeat => exact .single .beaten
      | batch n => exact .single .counted
    | cons b s =>
      simp only [step, ← Run.nextCall_eq]
      split
      · rename_i hok
        exact .single (.call (List.cons_ne_nil b s) hok)
      · rename_i e he
        exact .single (.fail (List.cons_ne_nil b s) he)
  | look =>
    simp only [step]
    split
    · rename_i ht
      exact .single (.close ht)
    · rename_i ht
      split
      · rename_i hd
        exact .single (.draw (Nat.lt_of_not_le ht) hd)
      · rename_i hd
        exact .single (.spent (Nat.lt_of_not_le ht) hd)
  | pace => exact .single .pace
  | beat =>
    simp only [step]
    split
    · rename_i hb
      exact .single (.skip hb)
    · rename_i hb
      exact .single (.beat hb)
    · rename_i hb
      exact .single (.unknown hb)
  | flush => exact .single .flush
  | ended e => exact .refl

/-- so many steps from a point on -/
def steps : Nat → Point → Point
  | 0, p => p
  | n + 1, p => steps n (f.step src w p)

theorem reaches_steps (n : Nat) (p : Point) : f.Reaches src w p (f.steps src w n p) := by
  induction n generalizing p with
  | zero => exact .refl
  | succ n ih => exact (f.reaches_step src w p).trans (ih (f.step src w p))

/-- a flood is worked out by as many steps as it takes to its end -/
theorem flood_of_steps {n : Nat} {d : Finish} (h : (f.steps src w n .start).finish? = some d) : f.flood src w = d := by
  have hsteps := f.reaches_steps src w n .start
  generalize f.steps src w n .start = p at h hsteps
  obtain ⟨r, stage⟩ := p
  cases stage with
  | ended e =>
    obtain rfl : (⟨r, e⟩ : Finish) = d := Option.some.inj h
    have heq := eq_of_reaches_ended (f.reaches_flood src w) hsteps
    rw [Point.mk.injEq, Stage.ended.injEq] at heq
    exact congrArg₂ Finish.mk heq.1 heq.2
  | _ => cases h

/-- and so is anything about it -/
theorem value_of_steps {α : Type} (g : Finish → α) {n : Nat} {a : α}
    (h : (f.steps src w n .start).finish?.map g = some a) : g (f.flood src w) = a := by
  obtain ⟨d, hd, rfl⟩ := Option.map_eq_some_iff.1 h
  rw [f.flood_of_steps src w hd]

theorem outcome_of_steps {n : Nat} {o : Except Fault Outcome}
    (h : (f.steps src w n .start).finish?.map Finish.outcome = some o) : (f.flood src w).outcome = o :=
  f.value_of_steps src w Finish.outcome h

end

end Flooder

end CallFeed
