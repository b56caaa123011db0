/-
Two floods of the same feed, to a quick client and to a slow one.

A wait is the shorter the later it starts, so a client that answers each call sooner could seem to lose by it. It does
not: after a wait the clock shows the later of two times, and neither is later for the quick client. So its flood does
all that the other does, call by call and never later, and where the other's time is over it may still go on.

- `Run.Abreast`, `step_abreast`: each step of the slow flood is one that the quick flood takes, no later;
- `exists_abreast`: wherever the slow flood comes to, the quick one has come to;
- `quicker_client_gets_no_less`: what the quick client gets, against what the slow one gets.
-/
import CallFeed.Proofs.Feed.Alike
import CallFeed.Proofs.Flood.Failure
import CallFeed.Proofs.Flood.Pacing

namespace CallFeed

open CallFeed.Feed

/-! ## What only grows -/

/-- what was done in the first run is done in the second -/
structure Run.Grows (r s : Run) : Prop where
  calls : r.calls.toList <+: s.calls.toList
  events : r.events ≤ s.events
  batches : r.batches ≤ s.batches
  heartbeats : r.heartbeats ≤ s.heartbeats

namespace Run

variable {r s t : Run}

theorem Grows.refl (r : Run) : r.Grows r := ⟨List.prefix_refl _, Nat.le_refl _, Nat.le_refl _, Nat.le_refl _⟩

theorem Grows.trans (h : r.Grows s) (h' : s.Grows t) : r.Grows t :=
  ⟨h.calls.trans h'.calls, Nat.le_trans h.events h'.events, Nat.le_trans h.batches h'.batches,
    Nat.le_trans h.heartbeats h'.heartbeats⟩

theorem grows_of_eq (hc : s.calls = r.calls) (ht : s.totals = r.totals) : r.Grows s := by
  simp only [totals, Prod.mk.injEq] at ht
  obtain ⟨-, -, hevents, hbatches, hheartbeats⟩ := ht
  exact ⟨hc ▸ List.prefix_refl _, Nat.le_of_eq hevents.symm, Nat.le_of_eq hbatches.symm, Nat.le_of_eq hheartbeats.symm⟩

theorem grows_record (r : Run) (c : Call) : r.Grows (r.record c) := by
  refine ⟨?_, Nat.le_refl _, Nat.le_refl _, Nat.le_refl _⟩
  rw [calls_record, Array.toList_push]
  exact List.prefix_append _ _

theorem Grows.getElem? (h : r.Grows s) {i : Nat} {c : Call} (hc : r.calls[i]? = some c) : s.calls[i]? = some c := by
  obtain ⟨more, hmore⟩ := h.calls
  rw [← Array.getElem?_toList] at hc ⊢
  have hi : i < r.calls.toList.length := (List.getElem?_eq_some_iff.1 hc).1
  rw [← hmore, List.getElem?_append_left hi]
  exact hc

end Run

namespace Flooder

theorem step_grows {f : Flooder} {src : Source} {w : Writer} {p q : Point} (hs : f.Step src w p q) :
    p.run.Grows q.run := by
  cases hs with
  | call hne hok => exact Run.grows_record _ _
  | fail hne he => exact Run.grows_record _ _
  | beaten => exact ⟨List.prefix_refl _, Nat.le_refl _, Nat.le_refl _, Nat.le_succ _⟩
  | counted => exact ⟨List.prefix_refl _, Nat.le_add_right _ _, Nat.le_succ _, Nat.le_refl _⟩
  | draw ht hd =>
    obtain ⟨-, rfl⟩ := draw_eq hd
    exact ⟨List.prefix_refl _, Nat.le_refl _, Nat.le_refl _, Nat.le_refl _⟩
  | @spent r r' text fault ht hd =>
    obtain ⟨counter, pos, rfl⟩ := run_of_draw hd
    exact ⟨List.prefix_refl _, Nat.le_refl _, Nat.le_refl _, Nat.le_refl _⟩
  | @pace r => exact Run.grows_of_eq (r.pace_totals f.rate).2 (r.pace_totals f.rate).1
  | beat hb => exact Run.grows_of_eq rfl rfl
  | flush => exact Run.grows_of_eq rfl rfl
  | _ => exact Run.Grows.refl _

theorem grows_of_reaches {f : Flooder} {src : Source} {w : Writer} {p q : Point} (h : f.Reaches src w p q) :
    p.run.Grows q.run :=
  h.keeps (P := fun q => p.run.Grows q.run) (fun _ _ hs hg => hg.trans (step_grows hs)) (Run.Grows.refl _)

end Flooder

/-! ## Abreast -/

/-- a call is not later than another, and it is offered the same part of the same portion -/
structure Call.Matches (c d : Course) (a b : Call) : Prop where
  time : a.time ≤ b.time
  offered : ∃ p k, a.offered = (c.octets p).drop k ∧ b.offered = (d.octets p).drop k

/-- the first run has done what the second has, and is not later -/
structure Run.Abreast (c d : Course) (r s : Run) : Prop where
  clock : r.clock ≤ s.clock
  counter : r.counter = s.counter
  events : r.events = s.events
  batches : r.batches = s.batches
  heartbeats : r.heartbeats = s.heartbeats
  size : r.calls.size = s.calls.size
  calls : ∀ (i : Nat) (b : Call), s.calls[i]? = some b → ∃ a : Call, r.calls[i]? = some a ∧ Call.Matches c d a b

namespace Run.Abreast

variable {c d : Course} {r s : Run}

theorem elapsed_le (h : r.Abreast c d s) : r.elapsed ≤ s.elapsed := Nat.mul_le_mul_right _ h.clock

theorem record (h : r.Abreast c d s) {a b : Call} (hm : a.Matches c d b) : (r.record a).Abreast c d (s.record b) := by
  refine ⟨hm.time, h.counter, h.events, h.batches, h.heartbeats, ?_, ?_⟩
  · simp only [calls_record, Array.size_push, h.size]
  · intro i b' hb'
    simp only [calls_record, Array.getElem?_push, h.size] at hb' ⊢
    by_cases hi : i = s.calls.size
    · rw [if_pos hi] at hb' ⊢
      cases hb'
      exact ⟨a, rfl, hm⟩
    · rw [if_neg hi] at hb' ⊢
      exact h.calls i b' hb'

/-- the later of two times is not later when neither is -/
theorem pace (h : r.Abreast c d s) (rate : Nat) : (r.pace rate).Abreast c d (s.pace rate) := by
  obtain ⟨hrt, hrc⟩ := r.pace_totals rate
  obtain ⟨hst, hsc⟩ := s.pace_totals rate
  simp only [totals, Prod.mk.injEq] at hrt hst
  obtain ⟨hr1, -, hr2, hr3, hr4⟩ := hrt
  obtain ⟨hs1, -, hs2, hs3, hs4⟩ := hst
  refine ⟨?_, ?_, ?_, ?_, ?_, ?_, ?_⟩
  · rw [clock_pace, clock_pace, h.events]
    exact Nat.max_le.2 ⟨Nat.le_trans h.clock (Nat.le_max_left _ _), Nat.le_max_right _ _⟩
  · rw [hr1, hs1, h.counter]
  · rw [hr2, hs2, h.events]
  · rw [hr3, hs3, h.batches]
  · rw [hr4, hs4, h.heartbeats]
  · rw [hrc, hsc, h.size]
  · rw [hrc, hsc]
    exact h.calls

end Run.Abreast

/-- the first stage is the second, of a feed of its own; and it is a look at the clock when the second is past its
last -/
def Stage.Abreast (c d : Course) (s : Stage) : Stage → Prop
  | .write p rest => ∃ k, s = .write p ((c.octets p).drop k) ∧ rest = (d.octets p).drop k
  | .look => s = .look
  | .pace => s = .pace
  | .beat => s = .beat
  | .flush => s = .look
  | .ended _ => s = .look

/-- a heartbeat is the same in every feed -/
theorem Stage.abreast_heartbeat (c d : Course) :
    (Stage.write .heartbeat (utf8 heartbeat)).Abreast c d (.write .heartbeat (utf8 heartbeat)) := by
  refine ⟨0, ?_, ?_⟩
  · rw [Course.octets_heartbeat, List.drop_zero]
  · rw [Course.octets_heartbeat, List.drop_zero]

/-- the first point is where the second is, and not later -/
structure Point.Abreast (c d : Course) (p q : Point) : Prop where
  run : p.run.Abreast c d q.run
  stage : p.stage.Abreast c d q.stage

/-! ## Two writers -/

/-- the first writer answers each call as the second does, and no later -/
structure Writer.Quicker (a b : Writer) : Prop where
  limit : a.limit = b.limit
  setbacks : a.setbacks = b.setbacks
  delay : ∀ call, a.delay call ≤ b.delay call

namespace Writer.Quicker

variable {a b : Writer} (h : a.Quicker b)

include h

/-- a reply depends on how much is offered only -/
theorem reply_eq (call : Nat) {s t : Octets} (hlen : s.length = t.length) : a.reply call s = b.reply call t := by
  have htakes : a.takes s = b.takes t := by
    unfold Writer.takes
    rw [h.limit]
    cases b.limit with
    | none => exact hlen
    | some k => simp only [List.length_take, hlen]
  unfold Writer.reply Writer.setback?
  rw [h.setbacks, htakes]

variable {c d : Course} {r s : Run} {p : Portion} {k : Nat}

theorem matches_nextCall (hr : r.Abreast c d s) :
    (r.nextCall a ((c.octets p).drop k)).Matches c d (s.nextCall b ((d.octets p).drop k)) := by
  refine ⟨?_, p, k, rfl, rfl⟩
  show r.clock + a.delay (r.calls.size + 1) ≤ s.clock + b.delay (s.calls.size + 1)
  rw [hr.size]
  exact Nat.add_le_add hr.clock (h.delay _)

/-- both calls leave the same part of the portion -/
theorem left_nextCall (hcd : c.Alike d) (hr : r.Abreast c d s) :
    ∃ k', (r.nextCall a ((c.octets p).drop k)).left = (c.octets p).drop k' ∧
      (s.nextCall b ((d.octets p).drop k)).left = (d.octets p).drop k' := by
  have hlen : ((c.octets p).drop k).length = ((d.octets p).drop k).length := by
    rw [List.length_drop, List.length_drop, hcd.length_octets]
  have hreply : (r.nextCall a ((c.octets p).drop k)).reply = (s.nextCall b ((d.octets p).drop k)).reply := by
    rw [r.nextCall_eq, s.nextCall_eq]
    show a.reply (r.calls.size + 1) _ = b.reply (s.calls.size + 1) _
    rw [hr.size]
    exact h.reply_eq _ hlen
  unfold Call.left
  rw [hreply]
  cases (s.nextCall b ((d.octets p).drop k)).reply with
  | took n => exact ⟨k + n, List.drop_drop, List.drop_drop⟩
  | failed e => exact ⟨k, rfl, rfl⟩

end Writer.Quicker

namespace Flooder

variable {f g : Flooder} {src src' : Source} {a b : Writer}

/-- a draw of the quick flood is that of the slow one, but for the times of the events -/
theorem exists_draw_abreast (hcd : (f.course src).Alike (g.course src')) {r s s' : Run} {text' : Text}
    (h : r.Abreast (f.course src) (g.course src') s) (hr : BetweenRounds (f.course src) r)
    (hs : BetweenRounds (g.course src') s) (hd : g.draw src' s = (s', text', none)) :
    ∃ r' text, f.draw src r = (r', text, none) ∧ r'.Abreast (f.course src) (g.course src') s' ∧
      utf8 text = (f.course src).octets (.batch s.batches) ∧
      utf8 text' = (g.course src').octets (.batch s.batches) := by
  have hsize : f.batchSize = g.batchSize := hcd.size_eq
  have hroom : r.counter + f.batchSize ≤ lastCallId := by
    obtain ⟨hcount, hle⟩ := draw_counter hd
    rwa [hcount, ← h.counter, ← hsize] at hle
  obtain ⟨r', text, hf⟩ : ∃ r' text, f.draw src r = (r', text, none) :=
    ⟨_, _, Prod.ext rfl (Prod.ext rfl (draw_of_room hroom))⟩
  refine ⟨r', text, hf, ?_, ?_, utf8_of_draw hs hd⟩
  · obtain ⟨-, rfl⟩ := draw_eq hf
    obtain ⟨-, rfl⟩ := draw_eq hd
    refine ⟨h.clock, ?_, h.events, h.batches, h.heartbeats, h.size, h.calls⟩
    show r.counter + f.batchSize = s.counter + g.batchSize
    rw [h.counter, hsize]
  · rw [← h.batches]
    exact utf8_of_draw hr hf

/-- **Each step of the slow flood is one that the quick flood takes**, no later, until the time of the slow one is
over. -/
theorem step_abreast (hcd : (f.course src).Alike (g.course src')) (hduration : g.duration ≤ f.duration)
    (hq : a.Quicker b) (ha : a.Unfailing) (hb : b.Unfailing) {p q q' : Point} (hs : g.Step src' b q q')
    (hf : OnCourse f src p) (hg : OnCourse g src' q) (h : p.Abreast (f.course src) (g.course src') q)
    (hgoes : ∀ fault, q'.stage ≠ .ended (.stopped fault)) :
    ∃ p', f.Reaches src a p p' ∧ p'.Abreast (f.course src) (g.course src') q' := by
  have hrate : f.rate = g.rate := hcd.rate
  have hsize : f.batchSize = g.batchSize := hcd.size_eq
  obtain ⟨r, stage⟩ := p
  obtain ⟨hrun, hstage⟩ := h
  cases hs with
  | @call s x rest hne hok =>
    obtain ⟨k, rfl, rfl⟩ := hstage
    have hne' : ((f.course src).octets x).drop k ≠ [] := fun hnil => hne (hcd.drop_octets_eq_nil_iff.1 hnil)
    obtain ⟨k', hleft, hleft'⟩ := hq.left_nextCall hcd hrun (p := x) (k := k)
    exact ⟨_, .single (.call hne' (r.fatal?_nextCall ha hne')), hrun.record (hq.matches_nextCall hrun), k',
      congrArg (Stage.write x) hleft, hleft'⟩
  | @fail s x rest e hne he =>
    rw [s.fatal?_nextCall hb hne] at he
    cases he
  | @beaten s =>
    obtain ⟨k, rfl, hnil⟩ := hstage
    rw [hcd.drop_octets_eq_nil_iff.2 hnil.symm]
    exact ⟨_, .single .beaten, ⟨hrun.clock, hrun.counter, hrun.events, hrun.batches,
      congrArg (· + 1) hrun.heartbeats, hrun.size, hrun.calls⟩, rfl⟩
  | @counted s n =>
    obtain ⟨k, rfl, hnil⟩ := hstage
    rw [hcd.drop_octets_eq_nil_iff.2 hnil.symm]
    have hevents : r.events + f.batchSize = s.events + g.batchSize := by rw [hrun.events, hsize]
    exact ⟨_, .single .counted, ⟨hrun.clock, hrun.counter, hevents, congrArg (· + 1) hrun.batches,
      hrun.heartbeats, hrun.size, hrun.calls⟩, rfl⟩
  | close ht =>
    -- the quick flood stays where it is: its own time need not be over
    exact ⟨_, .refl, hrun, hstage⟩
  | @draw s s' text' ht hd =>
    obtain rfl : stage = .look := hstage
    obtain ⟨r', text, hd', hrun', htext, htext'⟩ := exists_draw_abreast hcd hrun hf.2 hg.2 hd
    have ht' : r.elapsed < f.duration :=
      calc r.elapsed
          ≤ s.elapsed := hrun.elapsed_le
        _ < g.duration := ht
        _ ≤ f.duration := hduration
    refine ⟨_, .single (.draw ht' hd'), hrun', 0, ?_, htext'⟩
    rw [show r.batches = s.batches from hrun.batches, htext]
    rfl
  | spent ht hd => exact absurd rfl (hgoes _)
  | pace =>
    obtain rfl : stage = .pace := hstage
    rw [← hrate]
    exact ⟨_, .single .pace, hrun.pace f.rate, rfl⟩
  | @skip s hdue =>
    obtain rfl : stage = .beat := hstage
    rw [← hrate, ← show r.events = s.events from hrun.events] at hdue
    exact ⟨_, .single (.skip hdue), hrun, rfl⟩
  | @beat s hdue =>
    obtain rfl : stage = .beat := hstage
    rw [← hrate, ← show r.events = s.events from hrun.events] at hdue
    exact ⟨_, .single (.beat hdue), ⟨hrun.clock, hrun.counter, hrun.events, hrun.batches, hrun.heartbeats,
      hrun.size, hrun.calls⟩, Stage.abreast_heartbeat _ _⟩
  | unknown hdue => exact absurd rfl (hgoes _)
  | @flush s =>
    exact ⟨_, .refl, ⟨hrun.clock, hrun.counter, hrun.events, hrun.batches, hrun.heartbeats, hrun.size, hrun.calls⟩,
      hstage⟩

/-- **Wherever the slow flood comes to, the quick one has come to**, no later. -/
theorem exists_abreast (hcd : (f.course src).Alike (g.course src')) (hduration : g.duration ≤ f.duration)
    (hq : a.Quicker b) (ha : a.Unfailing) (hb : b.Unfailing) {q : Point} (h : g.Reaches src' b .start q)
    (hgoes : ∀ fault, q.stage ≠ .ended (.stopped fault)) :
    ∃ p, f.Reaches src a .start p ∧ p.Abreast (f.course src) (g.course src') q := by
  induction h with
  | refl =>
    refine ⟨.start, .refl, ⟨Nat.le_refl _, rfl, rfl, rfl, rfl, rfl, ?_⟩, Stage.abreast_heartbeat _ _⟩
    intro i call hcall
    cases hcall
  | @tail q q' hreach hs ih =>
    have hbefore (fault : Fault) : q.stage ≠ .ended (.stopped fault) := by
      obtain ⟨s, stage⟩ := q
      rintro rfl
      exact not_step_ended _ hs
    obtain ⟨p, hp, habreast⟩ := ih hbefore
    obtain ⟨p', hp', habreast'⟩ := step_abreast hcd hduration hq ha hb hs (onCourse_of_reaches hp)
      (onCourse_of_reaches hreach) habreast hgoes
    exact ⟨p', hp.trans hp', habreast'⟩

/-! ## What the quick client gets -/

/-- a flood that no call can end runs its time, if it is not stopped -/
theorem completed_of_unfailing (ha : a.Unfailing) {o : Outcome} (h : (f.flood src a).outcome = .ok o) :
    (f.flood src a).outcome = .ok (.completed (f.flood src a).run.summary) := by
  obtain ⟨e, rfl, hflush | ⟨e', rfl, hcut⟩⟩ := outcome_of_ok h
  · have hnone : e = none := hflush.first_failure.2.2.symm.trans ha.flushes
    rw [h, hnone]
    rfl
  · obtain ⟨r, p, rest, -, hne, -, -, he, -⟩ := hcut
    rw [r.fatal?_nextCall ha hne] at he
    cases he

/-- **A quicker client gets no less.** Take two floods of one feed, but for the times of its events, and let the first
have as long as the second or longer and a client that answers every call no later. Then the first makes every call that
the second makes, at the same place among its calls, no later, and with the same part of the same portion of the feed on
offer. Both run their time, and the first comes to no fewer batches, events and heartbeats. -/
theorem quicker_client_gets_no_less (f g : Flooder) (src src' : Source) (a b : Writer)
    (hfeed : (f.course src).Alike (g.course src')) (hduration : g.duration ≤ f.duration) (hquick : a.Quicker b)
    (ha : a.Unfailing) (hb : b.Unfailing) {o o' : Outcome} (hf : (f.flood src a).outcome = .ok o)
    (hg : (g.flood src' b).outcome = .ok o') :
    (∀ (i : Nat) (call : Call), (g.flood src' b).run.calls[i]? = some call →
      ∃ call' : Call, (f.flood src a).run.calls[i]? = some call' ∧ call'.time ≤ call.time ∧
        (∃ p k, call'.offered = ((f.course src).octets p).drop k ∧
          call.offered = ((g.course src').octets p).drop k) ∧
        (src = src' → call'.offered = call.offered)) ∧
    (∀ p, Feed.withhold ((f.course src).octets p) = Feed.withhold ((g.course src').octets p)) ∧
    ∃ s s', (f.flood src a).outcome = .ok (.completed s) ∧ (g.flood src' b).outcome = .ok (.completed s') ∧
      s'.batches ≤ s.batches ∧ s'.events ≤ s.events ∧ s'.heartbeats ≤ s.heartbeats := by
  have hgoes (fault : Fault) : (g.flood src' b).point.stage ≠ .ended (.stopped fault) := by
    intro hstop
    exact Finish.not_stopped_of_ok hg fault (Stage.ended.inj hstop)
  obtain ⟨p, hp, hrun, -⟩ :=
    exists_abreast hfeed hduration hquick ha hb (g.reaches_flood src' b) hgoes
  have hgrows : p.run.Grows (f.flood src a).run := grows_of_reaches (reaches_end hp)
  refine ⟨?_, hfeed.withhold_octets, _, _, completed_of_unfailing ha hf, completed_of_unfailing hb hg, ?_, ?_, ?_⟩
  · intro i call hcall
    obtain ⟨call', hcall', htime, x, k, hoffered', hoffered⟩ := hrun.calls i call hcall
    refine ⟨call', hgrows.getElem? hcall', htime, ⟨x, k, hoffered', hoffered⟩, ?_⟩
    rintro rfl
    have hcourse : f.course src = g.course src := by
      rw [course, course, show f.rate = g.rate from hfeed.rate, show f.factory = g.factory from hfeed.factory]
    rw [hoffered', hoffered, hcourse]
  · exact Nat.le_trans (Nat.le_of_eq hrun.batches.symm) hgrows.batches
  · exact Nat.le_trans (Nat.le_of_eq hrun.events.symm) hgrows.events
  · exact Nat.le_trans (Nat.le_of_eq hrun.heartbeats.symm) hgrows.heartbeats

/-- a client that answers at once and has 250 ms gets three batches; one that comes a day later, takes 60 ms to answer
and has 150 ms gets one, and no call of its flood sooner -/
theorem quick_client_gets_more :
    let f : Flooder := ⟨20, 250 * Duration.nanosPerMilli, ⟨true⟩, by decide⟩
    let g : Flooder := ⟨20, 150 * Duration.nanosPerMilli, ⟨true⟩, by decide⟩
    let src : Source := { words := Words.cycle #[7], stamp := fun _ => .moment ⟨0, 0, by decide +kernel⟩ }
    let src' : Source := { words := Words.cycle #[7], stamp := fun _ => .moment ⟨86400, 0, by decide +kernel⟩ }
    let a : Writer := { limit := some 200 }
    let b : Writer := { limit := some 200, delay := fun _ => 60 }
    (f.flood src a).outcome = .ok (.completed ⟨6, 3, 1, 300 * Duration.nanosPerMilli⟩) ∧
    (g.flood src' b).outcome = .ok (.completed ⟨2, 1, 1, 240 * Duration.nanosPerMilli⟩) ∧
    ∀ (i : Nat) (call : Call), (g.flood src' b).run.calls[i]? = some call →
      ∃ call' : Call, (f.flood src a).run.calls[i]? = some call' ∧ call'.time ≤ call.time := by
  intro f g src src' a b
  have hf : (f.flood src a).outcome = .ok (.completed ⟨6, 3, 1, 300 * Duration.nanosPerMilli⟩) :=
    f.outcome_of_steps src a (n := 26) (by decide +kernel)
  have hg : (g.flood src' b).outcome = .ok (.completed ⟨2, 1, 1, 240 * Duration.nanosPerMilli⟩) :=
    g.outcome_of_steps src' b (n := 12) (by decide +kernel)
  have hwidth : (src.stamp 0).text.length = (src'.stamp 0).text.length := by decide +kernel
  have hfeed : (f.course src).Alike (g.course src') := ⟨rfl, rfl, rfl, fun _ => hwidth⟩
  have hquick : a.Quicker b := ⟨rfl, rfl, fun _ => Nat.zero_le _⟩
  obtain ⟨hcalls, -, -⟩ := quicker_client_gets_no_less f g src src' a b hfeed (by decide) hquick
    ⟨by decide, by decide, rfl⟩ ⟨by decide, by decide, rfl⟩ hf hg
  refine ⟨hf, hg, fun i call hcall => ?_⟩
  obtain ⟨call', hcall', htime, -⟩ := hcalls i call hcall
  exact ⟨call', hcall', htime⟩

end Flooder

end CallFeed
