/-
What a counting reader comes to at the other end of a flood.

The two sides never meet but in the octets the writer took. The flood adds up what it has written whole; the reader adds
up the lines it finds. They agree where the flood ran its time, and elsewhere the reader has whatever arrived of the
portion whose write failed on top.

- `reader_agrees_with_flood`: what the reader counts, wherever the flood stops and however its octets arrive.
-/
import CallFeed.Proofs.Feed.Reading
import CallFeed.Proofs.Flood.Totals

namespace CallFeed.Flooder

open CallFeed.Feed CallFeed.Text

/-- what a flood that ran its time has sent is the records its summary counts -/
theorem records_of_completed (f : Flooder) (src : Source) (w : Writer) {s : Summary}
    (h : (f.flood src w).outcome = .ok (.completed s)) : ∃ ls : List Octets, (∀ l ∈ ls, IsRecord l) ∧
      (f.flood src w).run.sent = ls.flatten ∧ eventCount ls = s.events ∧ ls.count (utf8 heartbeat) = s.heartbeats := by
  obtain ⟨rfl, hacc⟩ := betweenRounds_of_completed h
  have hsent := Accounts.sent_eq hacc
  rw [Course.flatMap_octets] at hsent
  exact ⟨_, (f.course src).isRecord_of_mem_flatMap, hsent, (Course.eventCount_lines _ _).trans (Accounts.events hacc).symm,
    (Course.count_heartbeat_lines _ _).trans (Accounts.heartbeats hacc).symm⟩

/-- what a reader makes of a feed cut after its last newline -/
theorem ofFeed_of_lastCut {c : Course} {sent whole tail : Octets} {n : Nat} (hsent : sent <+: c.opening n)
    (hcut : LastCut sent whole tail) : (∀ l ∈ lines whole, IsRecord l) ∧ (lines whole).flatten = whole ∧
      ∃ t, Marked t ∧ utf8 t = tail ∧ Tally.ofFeed sent =
        if t = [] then .ok (Tally.plus {} (lines whole)) else (Tally.plus {} (lines whole)).line tail := by
  obtain ⟨ls, t, hls, ht, hjoined⟩ := c.exists_records hsent
  have hlines : ∀ l ∈ ls, IsLine l := fun l hl => (hls l hl).isLine
  -- these records and this start of a line are such a cut, so they are the given one
  obtain ⟨rfl, rfl⟩ := hcut.unique ⟨hjoined, getLast?_flatten_of_isLine hlines, newline_not_mem_of_marked ht⟩
  rw [lines_flatten hlines]
  exact ⟨hls, rfl, t, ht, rfl, by rw [hjoined, Tally.ofFeed_records hls ht]⟩

/-- **The counting reader and the flood agree.** However what a flood sent is cut into pieces, a reader that gets them,
and then the end of the feed, counts what the summary counts where the flood ran its time, and all the octets sent.
Wherever the flood stopped, what it sent can be cut after its last newline. Each complete line before the cut was counted
as an event or as a heartbeat, octet by octet. An unfinished line after it is text. It is counted as one more line, with
an octet for the newline it does not have, by the tag it starts with; if it starts with neither, the reader stops at it. -/
theorem reader_agrees_with_flood (f : Flooder) (src : Source) (w : Writer) {pieces : List Octets}
    (h : pieces.flatten = (f.flood src w).run.sent) :
    (∀ s, (f.flood src w).outcome = .ok (.completed s) →
      Tally.ofPieces pieces = .ok ⟨s.events, s.heartbeats, pieces.flatten.length⟩) ∧
    (∃ whole tail, LastCut pieces.flatten whole tail) ∧
    ∀ whole tail, LastCut pieces.flatten whole tail →
      let n : Tally := ⟨eventCount (lines whole), (lines whole).count (utf8 heartbeat), whole.length⟩
      n.events + n.heartbeats = (lines whole).length ∧
      ∃ t, decode? tail = some t ∧ utf8 t = tail ∧ Tally.ofPieces pieces =
        if tail = [] then .ok n
        else if "<Heartbeat>".toList <+: t then .ok ⟨n.events, n.heartbeats + 1, pieces.flatten.length + 1⟩
        else if "<CallStateEvent>".toList <+: t then .ok ⟨n.events + 1, n.heartbeats, pieces.flatten.length + 1⟩
        else .error (.unexpected t) := by
  refine ⟨?_, exists_lastCut _, ?_⟩
  · intro s hs
    obtain ⟨ls, hls, hsent, hevents, hbeats⟩ := f.records_of_completed src w hs
    have hread := Tally.ofFeed_records hls (t := []) (by decide)
    rw [utf8_nil, List.append_nil, if_pos rfl] at hread
    rw [Tally.ofPieces_eq, h, hsent, hread, Tally.plus, hevents, hbeats]
    simp only [Nat.zero_add]
  · intro whole tail hcut n
    obtain ⟨m, hm⟩ := f.sent_isPrefix_opening src w
    rw [← h] at hm
    obtain ⟨hrecords, hflat, t, ht, rfl, hread⟩ := ofFeed_of_lastCut hm hcut
    have hlength : pieces.flatten.length = whole.length + (utf8 t).length := by
      rw [hcut.joined, List.length_append]
    have hplus : Tally.plus {} (lines whole) = n := by
      simp only [Tally.plus, hflat, Nat.zero_add, n]
    have hnil : utf8 t = [] ↔ t = [] := by
      rw [← List.length_eq_zero_iff, length_utf8_of_ascii (isAscii_of_marked ht), List.length_eq_zero_iff]
    refine ⟨eventCount_add_count hrecords, t, decode?_utf8_of_ascii (isAscii_of_marked ht), rfl, ?_⟩
    rw [Tally.ofPieces_eq, hread, hplus, Tally.line_of_marked ht, hlength]
    simp only [hnil, n]

/-- a client that leaves in the middle of an event, read octet by octet: two events are counted, but four are read -/
theorem leaving_client_is_read :
    let f : Flooder := ⟨20, Duration.nanosPerSecond, ⟨true⟩, by decide⟩
    let src : Source := { words := Words.cycle #[7] }
    let w : Writer := { limit := some 300, setbacks := [(5, .error (.ofKind .brokenPipe))] }
    let sent := (f.flood src w).run.sent
    let pieces := sent.map fun b => [b]
    (f.flood src w).outcome = .ok (.disconnected ⟨2, 1, 1, 100000000⟩) ∧
      pieces.flatten = sent ∧ LastCut pieces.flatten (sent.take 866) (sent.drop 866) ∧
      Tally.ofPieces pieces = .ok ⟨4, 1, sent.length + 1⟩ := by
  intro f src w sent pieces
  obtain ⟨d, hd, hfacts⟩ := (Option.any_eq_true _ _).1 <|
    show (f.steps src w 11 .start).finish?.any (fun d => decide <|
        d.outcome = .ok (.disconnected ⟨2, 1, 1, 100000000⟩) ∧
        (d.run.sent.take 866).getLast? = some newline ∧ newline ∉ d.run.sent.drop 866 ∧ d.run.sent.drop 866 ≠ [] ∧
        eventCount (lines (d.run.sent.take 866)) = 3 ∧ (lines (d.run.sent.take 866)).count (utf8 heartbeat) = 1 ∧
        decode? (d.run.sent.drop 866) = some "<CallStateEvent><CallId>call".toList) = true by decide +kernel
  obtain ⟨houtcome, hcomplete, hopen, hne, hevents, hbeats, htail⟩ := of_decide_eq_true hfacts
  have hflood : f.flood src w = d := f.flood_of_steps src w hd
  obtain rfl := hflood
  have hjoined : pieces.flatten = sent := by
    rw [← List.flatMap_def]
    exact List.flatMap_singleton' sent
  have hcut : LastCut pieces.flatten (sent.take 866) (sent.drop 866) :=
    ⟨hjoined.trans (List.take_append_drop 866 sent).symm, Or.inr hcomplete, hopen⟩
  obtain ⟨-, t, htext, -, hread⟩ := (f.reader_agrees_with_flood src w hjoined).2.2 _ _ hcut
  have ht : t = "<CallStateEvent><CallId>call".toList := Option.some.inj (htext.symm.trans htail)
  refine ⟨houtcome, hjoined, hcut, ?_⟩
  rw [hread, if_neg hne, ht, if_neg (by decide), if_pos (by decide), hevents, hbeats, hjoined]

end CallFeed.Flooder
