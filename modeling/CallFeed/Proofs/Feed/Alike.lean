/-
Feeds that differ in the times of their events at most.

The same words drawn at other times give the same events but for their times. When these are equally long, every portion
of the one feed is as long as that portion of the other, and with the times withheld the portions are the same.

- `length_octets`: portions are equally long;
- `withhold_octets`: and the same but for the times.
-/
import CallFeed.Proofs.Feed.Withheld

namespace CallFeed.Feed

open CallFeed.Text

/-- a line without the time in it is as long whatever the time is -/
theorem length_line_stamp (e : Event) {s : Stamp} (h : e.stamp.text.length = s.text.length) :
    (utf8 { e with stamp := s }.line).length = (utf8 e.line).length := by
  have hutf8 (t : Stamp) : (utf8 t.text).length = t.text.length := length_utf8_of_ascii (isAscii_of_plain t.plain_text)
  have htime : (utf8 (element "Timestamp".toList s.text)).length =
      (utf8 (element "Timestamp".toList e.stamp.text)).length := by
    simp only [element_eq, utf8_append, List.length_append, hutf8, h]
  have hline (e' : Event) : (utf8 e'.line).length = (utf8 (openTag "CallStateEvent".toList)).length +
      (utf8 ((e'.fields.take 6).flatMap fun f => element f.1 f.2)).length +
      (utf8 (element "Timestamp".toList e'.stamp.text)).length + (utf8 (closeTag "CallStateEvent".toList ++ ['\n'])).length := by
    rw [← List.length_append, ← List.length_append, ← List.length_append, ← utf8_append, ← utf8_append, ← utf8_append]
    simp [Event.line, Event.text, element_eq, Event.fields]
  rw [hline, hline e]
  have hfields : ({ e with stamp := s }.fields.take 6) = e.fields.take 6 := rfl
  rw [hfields, htime]

/-- two courses differ in the times of their events at most, and the times of each event are equally long -/
structure Course.Alike (c d : Course) : Prop where
  rate : c.rate = d.rate
  factory : c.factory = d.factory
  words : c.source.words = d.source.words
  width : ∀ id, (c.source.stamp id).text.length = (d.source.stamp id).text.length

namespace Course.Alike

variable {c d : Course} (h : c.Alike d)

include h

theorem withhold_eq : c.withhold = d.withhold := by
  obtain ⟨hrate, hfactory, hwords, -⟩ := h
  unfold Course.withhold Source.withhold
  rw [hrate, hfactory, hwords]

theorem size_eq : c.size = d.size := by
  unfold Course.size
  rw [h.rate]

theorem position_eq (n : Nat) : c.position n = d.position n := by
  rw [← c.position_withhold, h.withhold_eq, d.position_withhold]

/-- with the times withheld each portion is the same -/
theorem withhold_octets (p : Portion) : Feed.withhold (c.octets p) = Feed.withhold (d.octets p) := by
  have hc : Feed.withhold (c.octets p) = c.withhold.octets p := (reads_portion c p).2
  have hd : Feed.withhold (d.octets p) = d.withhold.octets p := (reads_portion d p).2
  rw [hc, hd, h.withhold_eq]

/-- the events are the same but for their times, so their lines are equally long -/
theorem length_lines (count counter pos : Nat) :
    ((c.factory.events c.source count counter pos).1.map fun e => (utf8 e.line).length) =
      (d.factory.events d.source count counter pos).1.map fun e => (utf8 e.line).length := by
  obtain ⟨-, hfactory, hwords, hwidth⟩ := h
  obtain ⟨rate, factory, ⟨words, stamp⟩⟩ := c
  obtain ⟨rate', factory', ⟨words', stamp'⟩⟩ := d
  obtain rfl : factory = factory' := hfactory
  obtain rfl : words = words' := hwords
  dsimp only at hwidth ⊢
  induction count generalizing counter pos with
  | zero => rfl
  | succ count ih =>
    have hline := length_line_stamp (factory.event ⟨words, stamp⟩ (counter + 1) pos).1 (hwidth (counter + 1))
    have hnext : factory.event ⟨words, stamp'⟩ (counter + 1) pos =
        ({ (factory.event ⟨words, stamp⟩ (counter + 1) pos).1 with stamp := stamp' (counter + 1) },
          (factory.event ⟨words, stamp⟩ (counter + 1) pos).2) := rfl
    rw [Factory.events, Factory.events, List.map_cons, List.map_cons, hnext, hline, ih]

theorem length_octets (p : Portion) : (c.octets p).length = (d.octets p).length := by
  cases p with
  | heartbeat => rw [Course.octets_heartbeat, Course.octets_heartbeat]
  | batch n =>
    have hlines := h.length_lines c.size (n * c.size) (c.position (n * c.size))
    unfold Course.octets Course.lines Course.batch
    rw [List.length_flatten, List.length_flatten, List.map_map, List.map_map, ← h.size_eq, ← h.position_eq]
    exact congrArg List.sum hlines

theorem drop_octets_eq_nil_iff {p : Portion} {k : Nat} : (c.octets p).drop k = [] ↔ (d.octets p).drop k = [] := by
  rw [List.drop_eq_nil_iff, List.drop_eq_nil_iff, h.length_octets]

end Course.Alike

end CallFeed.Feed
