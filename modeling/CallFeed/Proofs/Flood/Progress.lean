/-
How far a flood has come in the course of its feed.

At every point the portions written whole are the first ones of the order. The totals count them, the numbers and words
drawn are those of the batches drawn, and what the writer has taken together with what is left of the portion being
written is the portions' octets. So the clock and the writer settle how far a flood comes, never what it sends.

- `Accounts`: the totals, the draws and the octets of a run that has written some portions;
- `OnCourse`: where in the order each point stands; `step_onCourse`, `onCourse_flood`;
- `sent_isPrefix_opening`: what a flood sends is how some opening starts.
-/
import CallFeed.Proofs.Flood.Steps

namespace CallFeed

open CallFeed.Feed

/-- the course of the feed of a flood -/
def Flooder.course (f : Flooder) (src : Source) : Course := ⟨f.rate, f.factory, src⟩

/-- a run that has written the portions `ps` whole and of the portions `now` all but `rest` -/
structure Accounts (c : Course) (ps now : List Portion) (rest : Octets) (r : Run) : Prop where
  batches : r.batches = batchCount ps
  heartbeats : r.heartbeats = ps.count .heartbeat
  events : r.events = batchCount ps * c.size
  counter : r.counter = batchCount (ps ++ now) * c.size
  pos : r.pos = c.position r.counter
  sent : ∃ part, r.sent = ps.flatMap c.octets ++ part ∧ part ++ rest = now.flatMap c.octets

namespace Accounts

variable {c : Course} {ps now : List Portion} {rest : Octets} {r s : Run}

/-- neither the clock nor the notes count -/
theorem congr (h : Accounts c ps now rest r) (ht : s.totals = r.totals) (hc : s.calls = r.calls) :
    Accounts c ps now rest s := by
  simp only [Run.totals, Prod.mk.injEq] at ht
  obtain ⟨h1, h2, h3, h4, h5⟩ := ht
  have hs : s.sent = r.sent := by rw [Run.sent, hc]; rfl
  exact ⟨h4.trans h.batches, h5.trans h.heartbeats, h3.trans h.events, h1.trans h.counter,
    by rw [h2, h1]; exact h.pos, by rw [hs]; exact h.sent⟩

/-- a call takes some of what was left -/
theorem record (h : Accounts c ps now rest r) (w : Writer) :
    Accounts c ps now (r.nextCall w rest).left (r.record (r.nextCall w rest)) := by
  obtain ⟨part, hsent, hpart⟩ := h.sent
  refine ⟨h.batches, h.heartbeats, h.events, h.counter, h.pos, part ++ (r.nextCall w rest).taken, ?_, ?_⟩
  · rw [Run.sent_record, hsent, List.append_assoc]
  · rw [List.append_assoc, Call.taken_append_left]
    exact hpart

theorem sent_append (h : Accounts c ps now rest r) : r.sent ++ rest = (ps ++ now).flatMap c.octets := by
  obtain ⟨part, hsent, hpart⟩ := h.sent
  rw [hsent, List.append_assoc, hpart, List.flatMap_append]

/-- with nothing under way all that was sent is what was written whole -/
theorem sent_eq (h : Accounts c ps [] [] r) : r.sent = ps.flatMap c.octets := by
  have := h.sent_append
  rwa [List.append_nil, List.append_nil] at this

/-- a heartbeat is begun -/
theorem beginBeat (h : Accounts c ps [] [] r) : Accounts c ps [.heartbeat] (utf8 heartbeat) r := by
  refine ⟨h.batches, h.heartbeats, h.events, ?_, h.pos, [], ?_, ?_⟩
  · rw [h.counter, List.append_nil, batchCount_append]
    rfl
  · rw [h.sent_eq, List.append_nil]
  · rw [List.flatMap_singleton, Course.octets_heartbeat]
    rfl

/-- a portion of which nothing is left is counted -/
theorem settle {p : Portion} (h : Accounts c ps [p] [] r) (hdraws : s.counter = r.counter ∧ s.pos = r.pos)
    (hc : s.calls = r.calls) (hb : s.batches = r.batches + batchCount [p])
    (hh : s.heartbeats = r.heartbeats + [p].count .heartbeat) (he : s.events = r.events + batchCount [p] * c.size) :
    Accounts c (ps ++ [p]) [] [] s := by
  have hs : s.sent = r.sent := by rw [Run.sent, hc]; rfl
  refine ⟨?_, ?_, ?_, ?_, ?_, [], ?_, rfl⟩
  · rw [batchCount_append, hb, h.batches]
  · rw [List.count_append, hh, h.heartbeats]
  · rw [batchCount_append, Nat.add_mul, he, h.events]
  · rw [List.append_nil, hdraws.1, h.counter]
  · rw [hdraws.1, hdraws.2, h.pos]
  · rw [hs, List.append_nil, ← h.sent_append, List.append_nil]

end Accounts

/-- a portion comes next after others -/
def Comes (c : Course) (ps : List Portion) : Portion → Prop
  | .heartbeat => ps ++ [.heartbeat] = c.order (batchCount ps)
  | .batch n => ps = c.order n

theorem octets_isPrefix_opening {c : Course} {ps : List Portion} {n : Nat} (h : ps <+: c.order n) :
    ps.flatMap c.octets <+: c.opening n := by
  obtain ⟨qs, hqs⟩ := h
  rw [Course.opening, ← hqs, List.flatMap_append]
  exact List.prefix_append _ _

/-- what was sent on the way through portions that begin the order starts an opening -/
theorem Accounts.sent_isPrefix {c : Course} {ps now : List Portion} {rest : Octets} {r : Run} {n : Nat}
    (h : Accounts c ps now rest r) (hp : ps ++ now <+: c.order n) : r.sent <+: c.opening n := by
  have hsent : r.sent <+: (ps ++ now).flatMap c.octets := ⟨rest, h.sent_append⟩
  exact hsent.trans (octets_isPrefix_opening hp)

theorem order_snoc_isPrefix {c : Course} (n : Nat) : c.order n ++ [.batch n] <+: c.order (n + 1) := by
  have hr : [Portion.batch n] <+: c.round n := by
    unfold Course.round
    split
    · exact List.prefix_append [Portion.batch n] [Portion.heartbeat]
    · exact List.prefix_rfl
  rw [Course.order]
  exact (List.prefix_append_right_inj _).2 hr

theorem Comes.isPrefix {c : Course} {ps : List Portion} {p : Portion} (h : Comes c ps p) :
    ∃ n, ps ++ [p] <+: c.order n := by
  cases p with
  | heartbeat =>
    rw [Comes] at h
    exact ⟨batchCount ps, h ▸ List.prefix_rfl⟩
  | batch n =>
    rw [Comes] at h
    exact ⟨n + 1, h ▸ order_snoc_isPrefix n⟩

/-- a run between two rounds, all of it written -/
def BetweenRounds (c : Course) (r : Run) : Prop := Accounts c (c.order r.batches) [] [] r

theorem BetweenRounds.sent_isPrefix {c : Course} {r : Run} (h : BetweenRounds c r) :
    r.sent <+: c.opening r.batches :=
  Accounts.sent_isPrefix h ((List.append_nil _).symm ▸ List.prefix_rfl)

/-- where in the order a point stands -/
def OnCourse (f : Flooder) (src : Source) (p : Point) : Prop :=
  match p.stage with
  | .write q rest => p.run.flushed = false ∧
      ∃ ps, Comes (f.course src) ps q ∧ Accounts (f.course src) ps [q] rest p.run
  | .look => p.run.flushed = false ∧ BetweenRounds (f.course src) p.run
  | .flush => p.run.flushed = false ∧ BetweenRounds (f.course src) p.run
  | .pace => p.run.flushed = false ∧
      ∃ n, Accounts (f.course src) ((f.course src).order n ++ [.batch n]) [] [] p.run
  | .beat => p.run.flushed = false ∧
      ∃ n, Accounts (f.course src) ((f.course src).order n ++ [.batch n]) [] [] p.run
  | .ended .completed => p.run.flushed = true ∧ BetweenRounds (f.course src) p.run
  | .ended (.broken e) => p.run.flushed = true ∧ BetweenRounds (f.course src) p.run ∨
      p.run.flushed = false ∧ ∃ ps q call, call.offered ≠ [] ∧ p.run.calls.back? = some call ∧ call.fatal? = some e ∧
        Comes (f.course src) ps q ∧ Accounts (f.course src) ps [q] call.offered p.run
  | .ended (.stopped _) => ∃ n, p.run.sent <+: (f.course src).opening n

namespace Flooder

variable {f : Flooder} {src : Source} {w : Writer}

theorem heartbeatDue_eq {rate events : Nat} {b : Bool} (h : heartbeatDue rate events = .ok b) :
    b = true ↔ events % (rate * heartbeatSeconds) = 0 := by
  unfold heartbeatDue at h
  split at h
  · cases h
  · cases h
    exact beq_iff_eq

theorem accounts_draw {r r' : Run} {text : Text} (hr : BetweenRounds (f.course src) r)
    (h : f.draw src r = (r', text, none)) :
    Accounts (f.course src) ((f.course src).order r.batches) [.batch r.batches] (utf8 text) r' := by
  obtain ⟨htext, hr'⟩ := draw_eq h
  have hn := (f.course src).batchCount_order r.batches
  have hcounter : r.counter = r.batches * (f.course src).size := by
    have := hr.counter
    rwa [List.append_nil, hn] at this
  have hsize : f.batchSize = (f.course src).size := rfl
  have hb : batchCount ((f.course src).order r.batches ++ [.batch r.batches]) = r.batches + 1 := by
    rw [batchCount_append, hn]
    rfl
  refine ⟨?_, ?_, ?_, ?_, ?_, [], ?_, ?_⟩
  · rw [hr', hn]
  · rw [hr']; exact hr.heartbeats
  · rw [hr']; exact hr.events
  · rw [hr', hb, Nat.succ_mul, ← hcounter, hsize]
  · rw [hr']
    dsimp only
    rw [hcounter, hsize, ← Nat.succ_mul, Course.position_succ_batch, ← hcounter, ← hr.pos]
    rfl
  · have hs : r'.sent = r.sent := by rw [hr']; rfl
    rw [hs, hr.sent_eq, List.append_nil]
  · rw [List.nil_append, htext, Course.utf8_flatMap_line, List.flatMap_singleton, Course.octets, Course.lines,
      Course.batch, ← hcounter, ← hr.pos]
    rfl

/-- what is drawn between two rounds is the next batch of the feed -/
theorem utf8_of_draw {r r' : Run} {text : Text} (hr : BetweenRounds (f.course src) r)
    (h : f.draw src r = (r', text, none)) : utf8 text = (f.course src).octets (.batch r.batches) := by
  obtain ⟨part, hsent, hpart⟩ := (accounts_draw hr h).sent
  have hnone : part = [] := by
    have hs : r'.sent = r.sent := by
      obtain ⟨-, rfl⟩ := draw_eq h
      rfl
    rw [hs, hr.sent_eq] at hsent
    exact List.self_eq_append_right.1 hsent
  rw [hnone, List.nil_append, List.flatMap_singleton] at hpart
  exact hpart

/-- the round is over when no heartbeat is due after its batch -/
theorem order_succ_of_not_due {c : Course} {n : Nat} (h : ¬ c.Beats n) : c.order (n + 1) = c.order n ++ [.batch n] := by
  rw [Course.order, Course.round, if_neg h]

theorem order_succ_of_due {c : Course} {n : Nat} (h : c.Beats n) :
    c.order (n + 1) = c.order n ++ [.batch n] ++ [.heartbeat] := by
  rw [Course.order, Course.round, if_pos h, List.append_assoc]
  rfl

theorem batchCount_order_snoc (c : Course) (n : Nat) : batchCount (c.order n ++ [.batch n]) = n + 1 := by
  rw [batchCount_append, c.batchCount_order]
  rfl

/-- **A step stays on the course.** -/
theorem step_onCourse {p q : Point} (hs : f.Step src w p q) (h : OnCourse f src p) : OnCourse f src q := by
  cases hs with
  | call hne hok =>
    obtain ⟨hf, ps, hcomes, hacc⟩ := h
    exact ⟨hf, ps, hcomes, hacc.record w⟩
  | @fail r q rest e hne he =>
    obtain ⟨hf, ps, hcomes, hacc⟩ := h
    have hleft : (r.nextCall w rest).left = (r.nextCall w rest).offered := by
      have := (r.nextCall w rest).taken_append_left
      rwa [Call.taken_of_fatal he, List.nil_append] at this
    have hrecord := hacc.record w
    rw [hleft] at hrecord
    exact Or.inr ⟨hf, ps, q, r.nextCall w rest, hne, Array.back?_push, he, hcomes, hrecord⟩
  | @beaten r =>
    obtain ⟨hf, ps, hcomes, hacc⟩ := h
    have hb : batchCount ps = r.batches := hacc.batches.symm
    rw [Comes, hb] at hcomes
    refine ⟨hf, ?_⟩
    unfold BetweenRounds
    rw [← hcomes]
    exact hacc.settle ⟨rfl, rfl⟩ rfl rfl rfl (by rw [batchCount_heartbeat, Nat.zero_mul]; rfl)
  | @counted r n =>
    obtain ⟨hf, ps, hcomes, hacc⟩ := h
    rw [Comes] at hcomes
    refine ⟨hf, n, ?_⟩
    rw [← hcomes]
    exact hacc.settle ⟨rfl, rfl⟩ rfl rfl rfl (by rw [batchCount_batch, Nat.one_mul]; rfl)
  | close ht => exact h
  | draw ht hd =>
    have hr := accounts_draw h.2 hd
    obtain ⟨_, hr'⟩ := draw_eq hd
    exact ⟨by rw [hr']; exact h.1, _, rfl, hr⟩
  | @spent r r' text fault ht hd =>
    obtain ⟨counter, pos, rfl⟩ := run_of_draw hd
    exact ⟨r.batches, h.2.sent_isPrefix⟩
  | @pace r =>
    obtain ⟨hf, n, hacc⟩ := h
    have hp := Run.pace_totals f.rate r
    exact ⟨(Run.flushed_pace f.rate r).trans hf, n, hacc.congr hp.1 hp.2⟩
  | @skip r hb =>
    obtain ⟨hf, n, hacc⟩ := h
    have hn : r.batches = n + 1 := by rw [hacc.batches, batchCount_order_snoc]
    have hdue : ¬ (f.course src).Beats n := by
      have he := hacc.events
      rw [batchCount_order_snoc] at he
      have hd := heartbeatDue_eq hb
      rw [he] at hd
      intro hbeat
      exact absurd (hd.2 hbeat) (by decide)
    refine ⟨hf, ?_⟩
    unfold BetweenRounds
    dsimp only
    rw [hn, order_succ_of_not_due hdue]
    exact hacc
  | @beat r hb =>
    obtain ⟨hf, n, hacc⟩ := h
    have hdue : (f.course src).Beats n := by
      have he := hacc.events
      rw [batchCount_order_snoc] at he
      have hd := (heartbeatDue_eq hb).1 rfl
      rwa [he] at hd
    refine ⟨hf, _, ?_, hacc.beginBeat.congr rfl rfl⟩
    rw [Comes, batchCount_order_snoc, order_succ_of_due hdue]
  | unknown hb =>
    obtain ⟨hf, n, hacc⟩ := h
    exact ⟨n + 1, hacc.sent_isPrefix (by rw [List.append_nil]; exact order_snoc_isPrefix n)⟩
  | @flush r =>
    unfold Run.finish Finish.point
    cases w.flushError with
    | none => exact ⟨rfl, h.2.congr rfl rfl⟩
    | some e => exact Or.inl ⟨rfl, h.2.congr rfl rfl⟩

theorem onCourse_start : OnCourse f src .start := by
  refine ⟨rfl, [], rfl, rfl, rfl, ?_, ?_, rfl, [], rfl, ?_⟩
  · exact (Nat.zero_mul _).symm
  · exact (Nat.zero_mul _).symm
  · rw [List.flatMap_singleton, Course.octets_heartbeat]
    rfl

theorem onCourse_of_reaches {p : Point} (h : f.Reaches src w .start p) : OnCourse f src p :=
  h.keeps (fun _ _ hs h => step_onCourse hs h) onCourse_start

/-- **A flood ends on the course of its feed.** -/
theorem onCourse_flood (f : Flooder) (src : Source) (w : Writer) : OnCourse f src (f.flood src w).point :=
  onCourse_of_reaches (reaches_flood f src w)

/-- while a batch is written, the batches before it are counted, and it is numbered too -/
theorem totals_of_batch {r : Run} {n : Nat} {rest : Octets} (h : OnCourse f src ⟨r, .write (.batch n) rest⟩) :
    r.batches = n ∧ r.events = n * f.batchSize ∧ r.counter = (n + 1) * f.batchSize := by
  obtain ⟨-, ps, hcomes, hacc⟩ := h
  rw [Comes] at hcomes
  have hn : batchCount ps = n := by rw [hcomes, Course.batchCount_order]
  have hsize : (f.course src).size = f.batchSize := rfl
  refine ⟨hacc.batches.trans hn, ?_, ?_⟩
  · rw [hacc.events, hn, hsize]
  · rw [hacc.counter, batchCount_append, hn, batchCount_batch, hsize]

/-- wherever a flood stands that was not stopped, it has written the first portions of the order, or is within the next -/
theorem accounts_of_onCourse {p : Point} (h : OnCourse f src p) :
    (∃ ps n, ps <+: (f.course src).order n ∧ Accounts (f.course src) ps [] [] p.run) ∨
      (∃ ps q rest, Comes (f.course src) ps q ∧ Accounts (f.course src) ps [q] rest p.run) ∨
      ∃ fault n, p.stage = .ended (.stopped fault) ∧ p.run.sent <+: (f.course src).opening n := by
  obtain ⟨r, stage⟩ := p
  cases stage with
  | write q rest =>
    obtain ⟨-, ps, hcomes, hacc⟩ := h
    exact Or.inr (Or.inl ⟨ps, q, rest, hcomes, hacc⟩)
  | look => exact Or.inl ⟨_, r.batches, List.prefix_rfl, h.2⟩
  | flush => exact Or.inl ⟨_, r.batches, List.prefix_rfl, h.2⟩
  | pace =>
    obtain ⟨-, n, hacc⟩ := h
    exact Or.inl ⟨_, n + 1, order_snoc_isPrefix n, hacc⟩
  | beat =>
    obtain ⟨-, n, hacc⟩ := h
    exact Or.inl ⟨_, n + 1, order_snoc_isPrefix n, hacc⟩
  | ended e =>
    cases e with
    | completed => exact Or.inl ⟨_, r.batches, List.prefix_rfl, h.2⟩
    | broken e =>
      rcases h with ⟨-, hb⟩ | ⟨-, ps, q, call, -, -, -, hcomes, hacc⟩
      · exact Or.inl ⟨_, r.batches, List.prefix_rfl, hb⟩
      · exact Or.inr (Or.inl ⟨ps, q, call.offered, hcomes, hacc⟩)
    | stopped fault =>
      obtain ⟨n, hn⟩ := h
      exact Or.inr (Or.inr ⟨fault, n, rfl, hn⟩)

/-- **What a flood sends is how an opening of its feed starts.** -/
theorem sent_isPrefix_opening (f : Flooder) (src : Source) (w : Writer) :
    ∃ n, (f.flood src w).run.sent <+: (f.course src).opening n := by
  rcases accounts_of_onCourse (f.onCourse_flood src w) with
    ⟨ps, n, hn, hacc⟩ | ⟨ps, q, rest, hcomes, hacc⟩ | ⟨fault, n, -, hn⟩
  · exact ⟨n, hacc.sent_isPrefix (by rwa [List.append_nil])⟩
  · obtain ⟨n, hn⟩ := hcomes.isPrefix
    exact ⟨n, hacc.sent_isPrefix hn⟩
  · exact ⟨n, hn⟩

end Flooder

end CallFeed
