/-
What a flood sends, whoever it sends it to.

The rate, the factory and the words settle one feed. How long a flood lasts, when the clock is looked at, how much each
call of the writer takes, what it puts off and what it fails with settle only where in that feed the flood stops.

- `flood_sends_feed`: with the times of its events withheld, what any flood sends is a start of the one feed, and so of
  any two floods one sends what the other starts with.
-/
import CallFeed.Proofs.Feed.Withheld
import CallFeed.Proofs.Flood.Progress

namespace CallFeed.Flooder

open CallFeed.Feed

/-- what a flood sends, the times of the events withheld -/
def shown (f : Flooder) (src : Source) (w : Writer) : Octets := withhold (f.flood src w).run.sent

theorem shown_isPrefix_opening (f : Flooder) (src : Source) (w : Writer) :
    ∃ n, f.shown src w <+: (f.course src).withhold.opening n := by
  obtain ⟨n, hn⟩ := f.sent_isPrefix_opening src w
  refine ⟨n, ?_⟩
  rw [← withhold_opening]
  exact withhold_isPrefix hn

/-- what a round adds: its batch, and a heartbeat where the events so far come to full periods -/
theorem opening_succ_eq (c : Course) (k : Nat) : c.opening (k + 1) =
    c.opening k ++ utf8 ((c.batch k).flatMap Event.line) ++
      if (k + 1) * c.size % (heartbeatSeconds * c.rate) = 0 then utf8 heartbeat else [] := by
  have hb : c.octets (.batch k) = utf8 ((c.batch k).flatMap Event.line) := (Course.utf8_flatMap_line _).symm
  have hbeats : c.Beats k ↔ (k + 1) * c.size % (heartbeatSeconds * c.rate) = 0 := by
    rw [Course.Beats, Nat.mul_comm c.rate]
  rw [Course.opening_succ, List.append_assoc, ← hb]
  congr 1
  unfold Course.round
  split
  · rename_i h
    rw [if_pos (hbeats.1 h), List.flatMap_cons, List.flatMap_singleton, Course.octets_heartbeat]
  · rename_i h
    rw [if_neg (mt hbeats.2 h), List.flatMap_singleton, List.append_nil]

/-- **What a flood sends is a start of one feed**, which the rate, the factory and the words settle. It opens with a
heartbeat; each round adds the lines of the next batch of events, numbered on and drawn on from the one before, and a
heartbeat exactly where the events so far fill a period. However long two floods last and whatever their clocks and
writers do, one sends what the other starts with. Nothing but the times is withheld: with them, what a flood sends is a
start of the feed that has them. -/
theorem flood_sends_feed (f : Flooder) (words : Words) :
    let c := f.course { words }
    (c.opening 0 = utf8 heartbeat ∧ ∀ k, c.opening (k + 1) = c.opening k ++ utf8 ((c.batch k).flatMap Event.line) ++
      if (k + 1) * f.batchSize % (heartbeatSeconds * f.rate) = 0 then utf8 heartbeat else []) ∧
    (∀ k, (c.batch k).map Event.callId = List.range' (k * f.batchSize + 1) f.batchSize ∧
      (f.factory.events { words } ((k + 1) * f.batchSize) 0 0).1 =
        (f.factory.events { words } (k * f.batchSize) 0 0).1 ++ c.batch k) ∧
    (∀ k, k < (c.opening k).length ∧ c.feed.take (c.opening k).length = c.opening k) ∧
    ∀ (duration : Nat) (stamp : Nat → Stamp) (w : Writer),
      let s := ({ f with duration }).shown { words, stamp } w
      (∃ n, (({ f with duration }).flood { words, stamp } w).run.sent <+: (f.course { words, stamp }).opening n) ∧
      c.feed.take s.length = s ∧ ∀ (duration' : Nat) (stamp' : Nat → Stamp) (w' : Writer),
        let s' := ({ f with duration := duration' }).shown { words, stamp := stamp' } w'
        s <+: s' ∨ s' <+: s := by
  intro c
  have hsize : 0 < c.size := f.batchSize_pos
  have hshown (d : Nat) (stamp : Nat → Stamp) (w : Writer) :
      ∃ n, ({ f with duration := d }).shown { words, stamp } w <+: c.opening n :=
    shown_isPrefix_opening { f with duration := d } { words, stamp } w
  refine ⟨⟨?_, fun k => opening_succ_eq c k⟩, fun k => ⟨f.factory.callId_events _ _ _ _, c.events_succ_batch k⟩,
    fun k => ⟨c.lt_length_opening hsize k, c.take_feed_of_opening hsize (List.prefix_refl _)⟩, ?_⟩
  · rw [Course.opening, Course.order, List.flatMap_singleton, Course.octets_heartbeat]
  · intro duration stamp w
    obtain ⟨n, hn⟩ := hshown duration stamp w
    refine ⟨sent_isPrefix_opening { f with duration } { words, stamp } w, c.take_feed_of_opening hsize hn,
      fun duration' stamp' w' => ?_⟩
    obtain ⟨n', hn'⟩ := hshown duration' stamp' w'
    rcases Nat.le_total n n' with hle | hle
    · exact List.prefix_or_prefix_of_prefix (hn.trans (c.opening_isPrefix hle)) hn'
    · exact List.prefix_or_prefix_of_prefix hn (hn'.trans (c.opening_isPrefix hle))

end CallFeed.Flooder
