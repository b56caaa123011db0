/-
What a reader makes of a feed, however the feed arrives.

A reader that gets a feed piece by piece comes to what it would come to with all of it at once, since between two pieces
it keeps what has no newline yet. Over the lines of a feed it counts by kind, and what it counts in octets is all it has
read. Only where the feed stops inside a line does it count an octet that was not there, or fail.

- `Tally.ofPieces_eq`: how a feed is cut does not matter;
- `Tally.more_records`: the lines of a feed are counted by kind;
- `Tally.ofFeed_records`: and so is the feed that stops in the middle of one.
-/
import Mathlib.Data.List.Induction
import Mathlib.Data.List.TakeWhile
import CallFeed.Feed.Reader
import CallFeed.Proofs.Feed.Records

namespace CallFeed.Feed

open CallFeed.Text

/-! ## Lines as they are taken -/

theorem received_append_of_isLine {l : Octets} (h : IsLine l) (t : Octets) :
    received (l ++ t) = dropReturn l.dropLast :: received t := by
  have htaken : taken? l = some (dropReturn l.dropLast) := if_pos (isComplete_of_isLine h)
  rw [received, lines_append_of_isLine h, List.filterMap_cons_some htaken]
  rfl

/-- octets without a newline are one line -/
theorem lines_of_not_mem {s : Octets} (h : newline ∉ s) (hne : s ≠ []) : lines s = [s] := by
  obtain ⟨s', b, rfl⟩ := (List.eq_nil_or_concat s).resolve_left hne
  rw [List.concat_eq_append] at h ⊢
  have hs : newline ∉ s' := fun hm => h (List.mem_append_left [b] hm)
  exact List.splitBy_of_isChain (by simp) (isChain_of_not_mem b hs)

theorem received_of_not_mem {s : Octets} (h : newline ∉ s) :
    received s = if dropReturn s = [] then [] else [dropReturn s] := by
  by_cases hne : s = []
  · subst hne
    rfl
  · have hlines := lines_of_not_mem h hne
    have hopen : isComplete s = false := not_isComplete_of_mem_lines h (hlines ▸ List.mem_singleton_self s)
    have htaken : taken? s = if dropReturn s = [] then none else some (dropReturn s) :=
      if_neg (Bool.eq_false_iff.1 hopen)
    rw [received, hlines]
    split
    · rename_i hd
      rw [if_pos hd] at htaken
      rw [List.filterMap_cons_none htaken, List.filterMap_nil]
    · rename_i hd
      rw [if_neg hd] at htaken
      rw [List.filterMap_cons_some htaken, List.filterMap_nil]

/-! ## Pieces -/

/-- octets with a newline are what stands before the first one, that newline, and the rest -/
theorem eq_first_line {s : Octets} (h : newline ∈ s) :
    s = s.takeWhile (· != newline) ++ [newline] ++ (s.dropWhile (· != newline)).tail := by
  have hne : s.dropWhile (· != newline) ≠ [] := by
    intro hnil
    have hall := List.dropWhile_eq_nil_iff.1 hnil newline h
    simp at hall
  have hhead : (s.dropWhile (· != newline)).head hne = newline := by
    have := List.head_dropWhile_not (· != newline) hne
    simpa using this
  have htail := List.cons_head_tail hne
  rw [hhead] at htail
  rw [List.append_assoc, List.singleton_append, htail, List.takeWhile_append_dropWhile]

theorem isLine_takeWhile (s : Octets) : IsLine (s.takeWhile (· != newline) ++ [newline]) := by
  refine ⟨_, rfl, fun hm => ?_⟩
  have := List.mem_takeWhile_imp hm
  simp at this

/-- what is kept has no newline -/
theorem Reader.newline_not_mem_settle {n : Tally} {kept : Octets} {r : Reader} (h : settle n kept = .ok r) :
    newline ∉ r.kept := by
  fun_induction settle n kept with
  | case1 n kept hc e he => cases h
  | case2 n kept hc n' hn ih => exact ih h
  | case3 n kept hc =>
    cases h
    simpa using hc

/-- **Lines may be counted before what follows them has come.** -/
theorem Reader.more_received_settle (n : Tally) (kept rest : Octets) :
    n.more (received (kept ++ rest)) =
      (settle n kept).bind fun r => r.tally.more (received (r.kept ++ rest)) := by
  fun_induction settle n kept with
  | case1 n kept hc e he =>
    have hs := eq_first_line (List.contains_iff_mem.1 hc)
    rw [hs, List.append_assoc, received_append_of_isLine (isLine_takeWhile kept), List.dropLast_concat, Tally.more, he]
    rfl
  | case2 n kept hc n' hn ih =>
    have hs := eq_first_line (List.contains_iff_mem.1 hc)
    rw [← ih]
    conv_lhs => rw [hs]
    rw [List.append_assoc, received_append_of_isLine (isLine_takeWhile kept), List.dropLast_concat, Tally.more, hn]
  | case3 n kept hc => rfl

theorem Reader.close_eq {r : Reader} (h : newline ∉ r.kept) : r.close = r.tally.more (received r.kept) := by
  rw [received_of_not_mem h, close]
  split
  · rfl
  · rw [Tally.more]
    cases r.tally.line (dropReturn r.kept) <;> rfl

theorem Reader.reads_eq {r : Reader} (pieces : List Octets) (h : newline ∉ r.kept) :
    r.reads pieces = r.tally.more (received (r.kept ++ pieces.flatten)) := by
  induction pieces generalizing r with
  | nil => rw [List.flatten_nil, List.append_nil, reads, close_eq h]
  | cons piece pieces ih =>
    -- what settling leaves has no newline, so the next piece finds the reader as this one did
    rw [List.flatten_cons, ← List.append_assoc, more_received_settle, reads, read]
    cases hs : settle r.tally (r.kept ++ piece) with
    | error e => rfl
    | ok r' => exact ih (newline_not_mem_settle hs)

/-- **How a feed is cut does not matter**: read in pieces, it comes to what it comes to as a whole. -/
theorem Tally.ofPieces_eq (pieces : List Octets) : ofPieces pieces = ofFeed pieces.flatten :=
  Reader.reads_eq pieces List.not_mem_nil

/-! ## Records -/

/-- before its newline a record is text that is plain but for its tags -/
theorem IsRecord.exists_marked {l : Octets} (h : IsRecord l) : ∃ t, Marked t ∧ l = utf8 t ++ [newline] := by
  cases h with
  | heartbeat => exact ⟨CallFeed.heartbeat.dropLast, by decide, by decide⟩
  | @event e h => exact ⟨e.text, Event.marked_text h, utf8_append e.text ['\n']⟩

/-- text that is plain but for its tags has no carriage return to drop -/
theorem dropReturn_of_marked {t : Text} (h : Marked t) : dropReturn (utf8 t) = utf8 t :=
  if_neg fun hlast => not_mem_of_marked h (by decide) (List.mem_of_getLast? hlast)

/-- what such text counts as is settled by the tag it starts with -/
theorem Tally.line_of_marked {t : Text} (h : Marked t) (n : Tally) : n.line (utf8 t) =
    if "<Heartbeat>".toList <+: t then .ok ⟨n.events, n.heartbeats + 1, n.octets + (utf8 t).length + 1⟩
    else if "<CallStateEvent>".toList <+: t then .ok ⟨n.events + 1, n.heartbeats, n.octets + (utf8 t).length + 1⟩
    else .error (.unexpected t) := by
  rw [line, decode?_utf8_of_ascii (isAscii_of_marked h)]
  simp only [List.isPrefixOf_iff_prefix]

theorem eventTag_isPrefix_text (e : Event) : "<CallStateEvent>".toList <+: e.text := by
  rw [Event.text, element_eq, List.append_assoc]
  exact List.prefix_append _ _

/-- the two tags are never taken for each other -/
theorem heartbeatTag_not_isPrefix (e : Event) : ¬ "<Heartbeat>".toList <+: e.text := by
  intro h
  have htags : "<Heartbeat>".toList <+: "<CallStateEvent>".toList :=
    List.prefix_of_prefix_length_le h (eventTag_isPrefix_text e) (by decide)
  exact absurd htags (by decide)

/-- what lines come to that are counted by kind, in whole octets -/
def Tally.plus (n : Tally) (ls : List Octets) : Tally :=
  ⟨n.events + eventCount ls, n.heartbeats + ls.count (utf8 heartbeat), n.octets + ls.flatten.length⟩

theorem Tally.plus_cons (n : Tally) (l : Octets) (ls : List Octets) : n.plus (l :: ls) = (n.plus [l]).plus ls := by
  have hlist : l :: ls = [l] ++ ls := rfl
  rw [plus, hlist, eventCount_append, List.count_append, List.flatten_append, List.length_append, ← Nat.add_assoc,
    ← Nat.add_assoc, ← Nat.add_assoc]
  rfl

theorem counts_of_event {e : Event} (h : e.PlainTenants) :
    eventCount [utf8 e.line] = 1 ∧ [utf8 e.line].count (utf8 heartbeat) = 0 := by
  constructor
  · rw [eventCount, List.countP_singleton, if_pos (isEventLine_event h)]
  · exact List.count_eq_zero.2 fun hl => event_ne_heartbeat h (List.mem_singleton.1 hl).symm

/-- **A record is counted as what it is**, and all its octets are. -/
theorem Tally.line_of_isRecord {l : Octets} (h : IsRecord l) (n : Tally) :
    n.line (dropReturn l.dropLast) = .ok (n.plus [l]) := by
  cases h with
  | heartbeat =>
    have ht : (utf8 heartbeat).dropLast = utf8 heartbeat.dropLast := by decide
    have hm : Marked heartbeat.dropLast := by decide
    rw [ht, dropReturn_of_marked hm, line_of_marked hm, if_pos (by decide)]
    rfl
  | @event e h =>
    have ht : utf8 e.line = utf8 e.text ++ [newline] := utf8_append e.text ['\n']
    obtain ⟨hcount, hbeats⟩ := counts_of_event h
    have hm := Event.marked_text h
    rw [plus, hcount, hbeats, List.flatten_singleton, ht, List.dropLast_concat, dropReturn_of_marked hm,
      line_of_marked hm, if_neg (heartbeatTag_not_isPrefix e), if_pos (eventTag_isPrefix_text e), List.length_append]
    rfl

/-- **The records of a feed are counted by kind**, and then what follows them. -/
theorem Tally.more_records {ls : List Octets} (h : ∀ l ∈ ls, IsRecord l) (n : Tally) (rest : Octets) :
    n.more (received (ls.flatten ++ rest)) = (n.plus ls).more (received rest) := by
  induction ls generalizing n with
  | nil => rfl
  | cons l ls ih =>
    have hl := h l List.mem_cons_self
    rw [List.flatten_cons, List.append_assoc, received_append_of_isLine hl.isLine, more, line_of_isRecord hl,
      plus_cons n l ls]
    exact ih (fun l' hl' => h l' (List.mem_cons_of_mem l hl')) (n.plus [l])

/-- every record is of one of the two kinds -/
theorem eventCount_add_count {ls : List Octets} (h : ∀ l ∈ ls, IsRecord l) :
    eventCount ls + ls.count (utf8 heartbeat) = ls.length := by
  induction ls with
  | nil => rfl
  | cons l ls ih =>
    have hls := ih fun l' hl' => h l' (List.mem_cons_of_mem l hl')
    have hone : eventCount [l] + [l].count (utf8 heartbeat) = 1 := by
      cases h l List.mem_cons_self with
      | heartbeat => decide
      | event he =>
        obtain ⟨hcount, hbeats⟩ := counts_of_event he
        rw [hcount, hbeats]
    have hsplit : l :: ls = [l] ++ ls := rfl
    rw [hsplit, eventCount_append, List.count_append, List.length_append, List.length_singleton]
    omega

/-! ## A feed that stops anywhere -/

/-- octets cut after their last newline: complete lines, and the start of one -/
structure LastCut (s whole tail : Octets) : Prop where
  joined : s = whole ++ tail
  complete : whole = [] ∨ whole.getLast? = some newline
  unfinished : newline ∉ tail

/-- every feed has such a cut -/
theorem exists_lastCut (s : Octets) : ∃ whole tail, LastCut s whole tail := by
  -- only what comes last decides whether the cut moves, so the induction adds octets at the end
  induction s using List.reverseRecOn with
  | nil => exact ⟨[], [], rfl, Or.inl rfl, List.not_mem_nil⟩
  | append_singleton s b ih =>
    by_cases hb : b = newline
    · subst hb
      exact ⟨s ++ [newline], [], (List.append_nil _).symm, Or.inr List.getLast?_concat, List.not_mem_nil⟩
    · obtain ⟨whole, tail, rfl, hcomplete, hunfinished⟩ := ih
      refine ⟨whole, tail ++ [b], List.append_assoc whole tail [b], hcomplete, fun h => ?_⟩
      rcases List.mem_append.1 h with h | h
      · exact hunfinished h
      · exact hb (List.mem_singleton.1 h).symm

/-- where the one cut leaves out nothing the other has in front -/
theorem LastCut.eq_of_append {s a b : Octets} {x y : Octets} (ha : LastCut s a x) (hb : LastCut s (a ++ b) y) : b = [] := by
  have hx : x = b ++ y := by
    have := ha.joined.symm.trans hb.joined
    rwa [List.append_assoc, List.append_cancel_left_eq] at this
  by_contra hne
  have hlast : (a ++ b).getLast? = some newline := by
    rcases hb.complete with h | h
    · exact absurd (List.append_eq_nil_iff.1 h).2 hne
    · exact h
  rw [List.getLast?_append_of_ne_nil a hne] at hlast
  exact ha.unfinished (hx ▸ List.mem_append_left y (List.mem_of_getLast? hlast))

/-- there is only one such cut -/
theorem LastCut.unique {s a b x y : Octets} (ha : LastCut s a x) (hb : LastCut s b y) : a = b ∧ x = y := by
  have hwhole : a = b := by
    rcases List.append_eq_append_iff.1 (ha.joined.symm.trans hb.joined) with ⟨c, rfl, -⟩ | ⟨c, rfl, -⟩
    · rw [LastCut.eq_of_append ha hb, List.append_nil]
    · rw [LastCut.eq_of_append hb ha, List.append_nil]
  refine ⟨hwhole, ?_⟩
  have := ha.joined.symm.trans hb.joined
  rwa [hwhole, List.append_cancel_left_eq] at this

theorem getLast?_flatten_of_isLine {ls : List Octets} (h : ∀ l ∈ ls, IsLine l) :
    ls.flatten = [] ∨ ls.flatten.getLast? = some newline := by
  rcases List.eq_nil_or_concat ls with rfl | ⟨ls', l, rfl⟩
  · exact Or.inl rfl
  · obtain ⟨s, rfl, -⟩ := h l (by simp)
    exact Or.inr (by simp)

/-- the start of an ASCII text's octets is the octets of a start of it -/
theorem exists_utf8_of_isPrefix {t : Text} (h : IsAscii t) {s : Octets} (hs : s <+: utf8 t) :
    ∃ t', t' <+: t ∧ utf8 t' = s := by
  induction t generalizing s with
  | nil => exact ⟨[], List.nil_prefix, (List.prefix_nil.1 hs).symm⟩
  | cons c t ih =>
    rw [utf8_cons, encode_of_ascii (h c List.mem_cons_self), List.singleton_append] at hs
    cases s with
    | nil => exact ⟨[], List.nil_prefix, rfl⟩
    | cons b s =>
      obtain ⟨rfl, hs'⟩ := List.cons_prefix_cons.1 hs
      obtain ⟨t', ht', rfl⟩ := ih (fun d hd => h d (List.mem_cons_of_mem c hd)) hs'
      refine ⟨c :: t', List.cons_prefix_cons.2 ⟨rfl, ht'⟩, ?_⟩
      rw [utf8_cons, encode_of_ascii (h c List.mem_cons_self), List.singleton_append]

/-- **Wherever a feed stops**, it has records and then the start of one more, which is text. -/
theorem Course.exists_records (c : Course) {s : Octets} {n : Nat} (h : s <+: c.opening n) :
    ∃ (ls : List Octets) (t : Text), (∀ l ∈ ls, IsRecord l) ∧ Marked t ∧ s = ls.flatten ++ utf8 t := by
  obtain ⟨rest, hrest⟩ := h
  rw [opening, flatMap_octets] at hrest
  have hrecords : ∀ l ∈ (c.order n).flatMap c.lines, IsRecord l := c.isRecord_of_mem_flatMap
  by_cases hne : rest = []
  · rw [hne, List.append_nil] at hrest
    refine ⟨_, [], hrecords, by decide, ?_⟩
    rw [hrest, utf8_nil, List.append_nil]
  · obtain ⟨ls, l, ls', u, v, hls, rfl, hl, hv⟩ := exists_cut hrest hne
    rw [hls] at hrecords
    obtain ⟨t, ht, htl⟩ := (hrecords l (by simp)).exists_marked
    obtain ⟨v', b, rfl⟩ := (List.eq_nil_or_concat v).resolve_left hv
    have hu : u <+: utf8 t := by
      rw [List.concat_eq_append, ← List.append_assoc, htl, List.append_singleton_inj] at hl
      exact hl.1 ▸ List.prefix_append u v'
    obtain ⟨t', ht', rfl⟩ := exists_utf8_of_isPrefix (isAscii_of_marked ht) hu
    exact ⟨ls, t', fun l' hl' => hrecords l' (List.mem_append_left _ hl'), fun d hd => ht d (ht'.subset hd), rfl⟩

theorem newline_not_mem_of_marked {t : Text} (h : Marked t) : newline ∉ utf8 t := not_mem_of_marked h (by decide)

/-- **A feed that stops inside a line**: its records are counted, and then what it stops in, as a line. -/
theorem Tally.ofFeed_records {ls : List Octets} {t : Text} (h : ∀ l ∈ ls, IsRecord l) (ht : Marked t) :
    ofFeed (ls.flatten ++ utf8 t) =
      if t = [] then .ok (Tally.plus {} ls)
      else (Tally.plus {} ls).line (utf8 t) := by
  have hreturn := dropReturn_of_marked ht
  rw [ofFeed, more_records h, received_of_not_mem (newline_not_mem_of_marked ht), hreturn]
  by_cases hnil : t = []
  · subst hnil
    rfl
  · have hne : utf8 t ≠ [] := by
      intro hu
      have hlen := length_utf8_of_ascii (isAscii_of_marked ht)
      rw [hu] at hlen
      exact hnil (List.length_eq_zero_iff.1 hlen.symm)
    rw [if_neg hne, if_neg hnil, more]
    cases (Tally.plus {} ls).line (utf8 t) <;> rfl

end CallFeed.Feed
