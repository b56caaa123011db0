/-
The lines a feed is made of, found again in its octets.

A line of a feed ends in its only newline, so cutting octets after each newline finds the lines they were joined from.
Where the octets stop inside a portion, the whole lines before that are still found, and what is left over is no line.

- `lines_flatten_append`: joined lines are found again;
- `IsRecord`: what a line of a feed can be;
- `exists_cut`: octets that stop short of the end of joined lines stop inside one of them;
- `eventCount_lines`, `count_heartbeat_lines`: the lines of portions, counted by kind.
-/
import Mathlib.Data.List.SplitBy
import CallFeed.Feed.Fields
import CallFeed.Feed.Lines
import CallFeed.Proofs.Event.Plain
import CallFeed.Proofs.Feed.Course

namespace CallFeed.Feed

open CallFeed.Text

/-! ## Lines and octets -/

/-- the octets are one line: their only newline comes last -/
def IsLine (l : Octets) : Prop := ∃ s, l = s ++ [newline] ∧ newline ∉ s

theorem isChain_of_not_mem {s : Octets} (b : UInt8) (h : newline ∉ s) :
    (s ++ [b]).IsChain fun x _ => (x != newline) = true := by
  induction s with
  | nil => exact List.isChain_singleton b
  | cons x s ih =>
    have hx : (x != newline) = true := bne_iff_ne.2 fun e => h (e ▸ List.mem_cons_self)
    have hs := ih fun hm => h (List.mem_cons_of_mem x hm)
    cases s with
    | nil => exact List.isChain_cons_cons.2 ⟨hx, hs⟩
    | cons y s => exact List.isChain_cons_cons.2 ⟨hx, hs⟩

/-- a newline cuts -/
theorem lines_append_of_isLine {l : Octets} (h : IsLine l) (t : Octets) : lines (l ++ t) = l :: lines t := by
  obtain ⟨s, rfl, hs⟩ := h
  have hcut : ∀ x ∈ (s ++ [newline]).getLast?, ∀ y ∈ t.head?, (x != newline) = false := by
    intro x hx y _
    rw [List.getLast?_concat, Option.mem_some_iff] at hx
    rw [← hx]
    rfl
  unfold lines
  rw [List.splitBy_append hcut, List.splitBy_of_isChain (by simp) (isChain_of_not_mem newline hs),
    List.singleton_append]

/-- **Joined lines are found again**, and what follows them is cut by itself. -/
theorem lines_flatten_append {ls : List Octets} (h : ∀ l ∈ ls, IsLine l) (t : Octets) :
    lines (ls.flatten ++ t) = ls ++ lines t := by
  induction ls with
  | nil => rfl
  | cons l ls ih =>
    rw [List.flatten_cons, List.append_assoc, lines_append_of_isLine (h l List.mem_cons_self),
      ih fun l' hl' => h l' (List.mem_cons_of_mem l hl'), List.cons_append]

theorem lines_flatten {ls : List Octets} (h : ∀ l ∈ ls, IsLine l) : lines ls.flatten = ls := by
  have hjoined := lines_flatten_append h []
  rw [List.append_nil, show lines [] = [] from rfl, List.append_nil] at hjoined
  exact hjoined

/-- octets without a newline are at most one line, and that not a complete one -/
theorem not_isComplete_of_mem_lines {u l : Octets} (h : newline ∉ u) (hl : l ∈ lines u) : isComplete l = false := by
  have hsub : ∀ b ∈ l, b ∈ u := by
    intro b hb
    have hflat : (lines u).flatten = u := List.flatten_splitBy _ u
    rw [← hflat]
    exact List.mem_flatten.2 ⟨l, hl, hb⟩
  unfold isComplete
  cases hlast : l.getLast? with
  | none => rfl
  | some b =>
    have hne : b ≠ newline := fun e => h (e ▸ hsub b (List.mem_of_getLast? hlast))
    simpa using hne

/-- **Octets that stop short of the end of joined lines** stop inside one of them. -/
theorem exists_cut {ls : List Octets} {t rest : Octets} (h : t ++ rest = ls.flatten) (hrest : rest ≠ []) :
    ∃ ls₁ l ls₂ u v, ls = ls₁ ++ l :: ls₂ ∧ t = ls₁.flatten ++ u ∧ l = u ++ v ∧ v ≠ [] := by
  induction ls generalizing t with
  | nil => exact absurd (List.append_eq_nil_iff.1 h).2 hrest
  | cons l ls ih =>
    rw [List.flatten_cons] at h
    by_cases hlen : l.length ≤ t.length
    · obtain ⟨t', rfl⟩ : l <+: t :=
        List.prefix_of_prefix_length_le ⟨ls.flatten, h.symm⟩ (List.prefix_append t rest) hlen
      rw [List.append_assoc, List.append_cancel_left_eq] at h
      obtain ⟨ls₁, l', ls₂, u, v, rfl, rfl, rfl, hv⟩ := ih h
      exact ⟨l :: ls₁, _, ls₂, u, v, rfl, by rw [List.flatten_cons, List.append_assoc], rfl, hv⟩
    · obtain ⟨v, rfl⟩ : t <+: l :=
        List.prefix_of_prefix_length_le ⟨rest, h⟩ (List.prefix_append l ls.flatten) (by omega)
      refine ⟨[], t ++ v, ls, t, v, rfl, rfl, rfl, ?_⟩
      rintro rfl
      exact hlen (by rw [List.append_nil])

/-- the start of a line, short of its end, has no newline -/
theorem newline_not_mem_of_cut {l u v : Octets} (hl : IsLine l) (h : l = u ++ v) (hv : v ≠ []) : newline ∉ u := by
  obtain ⟨s, rfl, hs⟩ := hl
  obtain ⟨v', b, rfl⟩ := (List.eq_nil_or_concat v).resolve_left hv
  rw [List.concat_eq_append, ← List.append_assoc, List.append_singleton_inj] at h
  intro hu
  exact hs (h.1 ▸ List.mem_append_left v' hu)

/-! ## The lines of portions -/

/-- how the line of an event starts -/
def eventTag : Octets := utf8 (openTag "CallStateEvent".toList)

/-- a complete line that starts as that of an event -/
def isEventLine (l : Octets) : Bool := isComplete l && eventTag.isPrefixOf l

/-- how many complete lines of events there are -/
def eventCount (ls : List Octets) : Nat := ls.countP isEventLine

theorem eventCount_append (ls ls' : List Octets) : eventCount (ls ++ ls') = eventCount ls + eventCount ls' :=
  List.countP_append

/-- without a line of an event there is nothing to count -/
theorem eventCount_eq_zero {ls : List Octets} (h : ∀ l ∈ ls, isEventLine l = false) : eventCount ls = 0 :=
  List.countP_eq_zero.2 fun l hl => Bool.eq_false_iff.1 (h l hl)

theorem element_eq (tag content : Text) : element tag content = openTag tag ++ content ++ closeTag tag := by
  simp [element, openTag, closeTag]

theorem isAscii_of_marked {t : Text} (h : Marked t) : IsAscii t := fun c hc => (isMarkup_bounds (h c hc)).2

/-- text that is plain but for its tags has no octet before the plus sign, so no newline and no carriage return -/
theorem not_mem_of_marked {t : Text} (h : Marked t) {b : UInt8} (hb : b.toNat < 43) : b ∉ utf8 t := by
  intro hm
  obtain ⟨c, hc, hbc⟩ := mem_utf8_of_ascii (isAscii_of_marked h) hm
  have := isMarkup_bounds (h c hc)
  omega

theorem isLine_utf8 {t : Text} (h : Marked t) : IsLine (utf8 (t ++ ['\n'])) :=
  ⟨utf8 t, utf8_append t _, not_mem_of_marked h (by decide)⟩

theorem isLine_event {e : Event} (h : e.PlainTenants) : IsLine (utf8 e.line) :=
  isLine_utf8 (Event.marked_text h)

theorem isLine_heartbeat : IsLine (utf8 heartbeat) := isLine_utf8 (by decide)

theorem isComplete_of_isLine {l : Octets} (h : IsLine l) : isComplete l = true := by
  obtain ⟨s, rfl, -⟩ := h
  simp [isComplete]

theorem eventTag_isPrefix_line (e : Event) : eventTag <+: utf8 e.line := by
  rw [Event.line, Event.text, element_eq, utf8_append, utf8_append, utf8_append, List.append_assoc, List.append_assoc]
  exact List.prefix_append _ _

theorem isEventLine_event {e : Event} (h : e.PlainTenants) : isEventLine (utf8 e.line) = true := by
  rw [isEventLine, isComplete_of_isLine (isLine_event h), Bool.true_and]
  exact List.isPrefixOf_iff_prefix.2 (eventTag_isPrefix_line e)

theorem isEventLine_heartbeat : isEventLine (utf8 heartbeat) = false := by decide

theorem event_ne_heartbeat {e : Event} (h : e.PlainTenants) : utf8 e.line ≠ utf8 heartbeat := by
  intro he
  have := isEventLine_event h
  rw [he, isEventLine_heartbeat] at this
  cases this

/-- a line of a feed: a heartbeat, or the line of an event with plain tenants -/
inductive IsRecord : Octets → Prop where
  | heartbeat : IsRecord (utf8 heartbeat)
  | event {e : Event} (h : e.PlainTenants) : IsRecord (utf8 e.line)

theorem IsRecord.isLine {l : Octets} (h : IsRecord l) : IsLine l := by
  cases h with
  | heartbeat => exact isLine_heartbeat
  | event h => exact isLine_event h

namespace Course

variable (c : Course)

theorem plain_batch (n : Nat) : ∀ e ∈ c.batch n, e.PlainTenants := c.factory.plain_events c.source _ _ _

theorem isRecord_of_mem_lines {p : Portion} : ∀ l ∈ c.lines p, IsRecord l := by
  intro l hl
  cases p with
  | heartbeat =>
    rw [List.mem_singleton.1 hl]
    exact .heartbeat
  | batch n =>
    obtain ⟨e, he, rfl⟩ := List.mem_map.1 hl
    exact .event (c.plain_batch n e he)

theorem isLine_of_mem_lines {p : Portion} : ∀ l ∈ c.lines p, IsLine l := fun l hl => (c.isRecord_of_mem_lines l hl).isLine

/-- the lines of a batch, or some of them, are lines of events only -/
theorem eventCount_of_subset_batch {n : Nat} {ls : List Octets} (h : ls ⊆ c.lines (.batch n)) :
    eventCount ls = ls.length ∧ ls.count (utf8 heartbeat) = 0 := by
  refine ⟨List.countP_eq_length.2 fun l hl => ?_, List.count_eq_zero.2 fun hl => ?_⟩
  · obtain ⟨e, he, rfl⟩ := List.mem_map.1 (h hl)
    exact isEventLine_event (c.plain_batch n e he)
  · obtain ⟨e, he, heq⟩ := List.mem_map.1 (h hl)
    exact event_ne_heartbeat (c.plain_batch n e he) heq

theorem eventCount_lines (ps : List Portion) : eventCount (ps.flatMap c.lines) = batchCount ps * c.size := by
  induction ps with
  | nil => exact (Nat.zero_mul _).symm
  | cons p ps ih =>
    rw [List.flatMap_cons, eventCount_append, ih]
    cases p with
    | heartbeat =>
      have hbeat : eventCount (c.lines .heartbeat) = 0 :=
        eventCount_eq_zero fun l hl => by rw [List.mem_singleton.1 hl, isEventLine_heartbeat]
      rw [hbeat, Nat.zero_add]
      rfl
    | batch n =>
      have hlen : (c.lines (.batch n)).length = c.size := by rw [lines, List.length_map, length_batch]
      have hcount : batchCount (.batch n :: ps) = batchCount ps + 1 := List.countP_cons_of_pos rfl
      rw [(c.eventCount_of_subset_batch (List.Subset.refl _)).1, hlen, hcount, Nat.succ_mul, Nat.add_comm]

theorem count_heartbeat_lines (ps : List Portion) :
    (ps.flatMap c.lines).count (utf8 heartbeat) = ps.count .heartbeat := by
  induction ps with
  | nil => rfl
  | cons p ps ih =>
    rw [List.flatMap_cons, List.count_append, ih]
    cases p with
    | heartbeat => rw [lines, List.count_singleton_self, List.count_cons_self, Nat.add_comm]
    | batch n =>
      have hne : Portion.batch n ≠ .heartbeat := fun h => by cases h
      rw [(c.eventCount_of_subset_batch (List.Subset.refl _)).2, Nat.zero_add, List.count_cons_of_ne hne]

theorem flatMap_octets (ps : List Portion) : ps.flatMap c.octets = (ps.flatMap c.lines).flatten := by
  rw [List.flatten_eq_flatMap, List.flatMap_assoc]
  simp only [← List.flatten_eq_flatMap]
  rfl

theorem isRecord_of_mem_flatMap {ps : List Portion} : ∀ l ∈ ps.flatMap c.lines, IsRecord l := by
  intro l hl
  obtain ⟨p, -, hp⟩ := List.mem_flatMap.1 hl
  exact c.isRecord_of_mem_lines l hp

/-- whole portions are found again line by line, and what follows them is cut by itself -/
theorem lines_portions (ps : List Portion) (t : Octets) :
    Feed.lines (ps.flatMap c.octets ++ t) = ps.flatMap c.lines ++ Feed.lines t := by
  rw [flatMap_octets, lines_flatten_append fun l hl => (c.isRecord_of_mem_flatMap l hl).isLine]

/-- the lines that a portion cut short still has are events of its batch, fewer than all of them -/
theorem lines_of_cut (hs : 0 < c.size) {p : Portion} {t rest : Octets} (h : t ++ rest = c.octets p)
    (hrest : rest ≠ []) : (eventCount (Feed.lines t) < c.size ∧ eventCount (Feed.lines t) ≤ batchCount [p] * c.size) ∧
      (Feed.lines t).count (utf8 heartbeat) = 0 := by
  obtain ⟨ls₁, l, ls₂, u, v, hls, rfl, hl, hv⟩ := exists_cut h hrest
  have hline : ∀ l' ∈ ls₁ ++ l :: ls₂, IsLine l' := hls ▸ c.isLine_of_mem_lines
  have hu : ∀ l' ∈ Feed.lines u, isComplete l' = false := fun l' hl' =>
    not_isComplete_of_mem_lines (newline_not_mem_of_cut (hline l (by simp)) hl hv) hl'
  have huevents : eventCount (Feed.lines u) = 0 :=
    eventCount_eq_zero fun l' hl' => by rw [isEventLine, hu l' hl', Bool.false_and]
  have hubeats : (Feed.lines u).count (utf8 heartbeat) = 0 :=
    List.count_eq_zero.2 fun hm => by
      have := hu _ hm
      rw [isComplete_of_isLine isLine_heartbeat] at this
      cases this
  have hcut : Feed.lines (ls₁.flatten ++ u) = ls₁ ++ Feed.lines u :=
    lines_flatten_append (fun l' hl' => hline l' (List.mem_append_left _ hl')) u
  rw [hcut, List.count_append, hubeats, eventCount_append, huevents, Nat.add_zero]
  cases p with
  | heartbeat =>
    -- a heartbeat has one line only, so none before the one that is cut
    obtain rfl : ls₁ = [] := by
      have := congrArg List.length hls
      simp only [lines, List.length_append, List.length_cons, List.length_nil] at this
      exact List.length_eq_zero_iff.1 (by omega)
    exact ⟨⟨hs, Nat.zero_le _⟩, rfl⟩
  | batch n =>
    have hsub : ls₁ ⊆ c.lines (.batch n) := hls ▸ List.subset_append_left _ _
    have hlen : ls₁.length < c.size := by
      have := congrArg List.length hls
      rw [lines, List.length_map, length_batch, List.length_append, List.length_cons] at this
      omega
    obtain ⟨hcount, hbeats⟩ := c.eventCount_of_subset_batch hsub
    rw [hcount, hbeats, batchCount_batch, Nat.one_mul]
    exact ⟨⟨hlen, Nat.le_of_lt hlen⟩, rfl⟩

end Course

theorem length_heartbeatPlaces (s : Octets) : (heartbeatPlaces s).length = (lines s).count (utf8 heartbeat) := by
  have hfst : (lines s).count (utf8 heartbeat) = ((lines s).zipIdx.map Prod.fst).countP (· == utf8 heartbeat) := by
    rw [List.zipIdx_map_fst]
    rfl
  rw [hfst, List.countP_map, heartbeatPlaces, List.length_map, ← List.countP_eq_length_filter]
  rfl

end CallFeed.Feed
