/-
A feed with the times of its events withheld.

A reader goes over the octets once and shows each as it comes, but for the time of an event: what stands behind the time
tag of an event's line is shown as the bare form of a time, octet by octet, and the rest of the form when the time ends.
As it never looks ahead, what it shows of the start of a feed is a start of what it shows of the feed.

- `withhold_isPrefix`: starts stay starts;
- `withhold_opening`: a feed shown so is the feed drawn with its times withheld.
-/
import CallFeed.Proofs.Feed.Records

namespace CallFeed.Feed

open CallFeed.Text

/-- what stands before the time of an event -/
def timeTag : Octets := utf8 (openTag "Timestamp".toList)

/-- what is shown in place of a time -/
def bareTime : Octets := utf8 Stamp.withheld.text

/-- what opens a tag -/
def tagOpener : UInt8 := 60

/-! ## The reader -/

/-- where the reader is in a line -/
inductive Place where
  /-- so far the line starts as that of an event -/
  | front (seen : Nat)
  /-- the line is not that of an event -/
  | elsewhere
  /-- in an event, behind the first octets of a time tag or behind none of them -/
  | event (seen : Nat)
  /-- in the time, of which so many octets have gone by -/
  | time (gone : Nat)
  | behind
deriving DecidableEq, Repr

namespace Place

def next (p : Place) (b : UInt8) : Place :=
  if b = newline then front 0
  else
    match p with
    | front n =>
      if eventTag[n]? = some b then (if n + 1 = eventTag.length then event 0 else front (n + 1)) else elsewhere
    | elsewhere => elsewhere
    | event n =>
      if timeTag[n]? = some b then (if n + 1 = timeTag.length then time 0 else event (n + 1))
      else if b = tagOpener then event 1
      else event 0
    | time n => if b = tagOpener then behind else time (n + 1)
    | behind => behind

/-- what is shown for an octet -/
def shown (p : Place) (b : UInt8) : Octets :=
  match p with
  | time n => if b = tagOpener then bareTime.drop n ++ [b] else (bareTime.drop n).take 1
  | _ => [b]

/-- what is shown for some octets -/
def shows : Place → Octets → Octets
  | _, [] => []
  | p, b :: s => p.shown b ++ (p.next b).shows s

/-- the place after some octets -/
def after (p : Place) (s : Octets) : Place := s.foldl next p

theorem shows_append (p : Place) (s t : Octets) : p.shows (s ++ t) = p.shows s ++ (p.after s).shows t := by
  induction s generalizing p with
  | nil => rfl
  | cons b s ih => rw [List.cons_append, shows, ih, ← List.append_assoc]; rfl

theorem after_append (p : Place) (s t : Octets) : p.after (s ++ t) = (p.after s).after t := List.foldl_append

end Place

/-- the octets with the times of events withheld -/
def withhold (s : Octets) : Octets := (Place.front 0).shows s

theorem withhold_isPrefix {s t : Octets} (h : s <+: t) : withhold s <+: withhold t := by
  obtain ⟨u, rfl⟩ := h
  rw [withhold, withhold, Place.shows_append]
  exact List.prefix_append _ _

/-! ## Reading a line -/

/-- from one place to another some octets are shown as others -/
def Reads (p : Place) (s : Octets) (q : Place) (t : Octets) : Prop := p.after s = q ∧ p.shows s = t

instance (p : Place) (s : Octets) (q : Place) (t : Octets) : Decidable (Reads p s q t) :=
  inferInstanceAs (Decidable (_ ∧ _))

theorem Reads.append {p q r : Place} {s s' t t' : Octets} (h : Reads p s q t) (h' : Reads q s' r t') :
    Reads p (s ++ s') r (t ++ t') := by
  obtain ⟨rfl, rfl⟩ := h
  obtain ⟨rfl, rfl⟩ := h'
  exact ⟨p.after_append s s', p.shows_append s s'⟩

theorem ne_of_plain {t : Text} (h : Plain t) {b : UInt8} (hb : b ∈ utf8 t) : b ≠ newline ∧ b ≠ tagOpener := by
  obtain ⟨c, hc, hbc⟩ := mem_utf8_of_ascii (isAscii_of_plain h) hb
  have hc := h c hc
  unfold IsPlain at hc
  constructor
  · rintro rfl
    have : newline.toNat = 10 := rfl
    omega
  · rintro rfl
    have : tagOpener.toNat = 60 := rfl
    omega

theorem reads_content {s : Octets} (h : ∀ b ∈ s, b ≠ newline ∧ b ≠ tagOpener) : Reads (.event 0) s (.event 0) s := by
  induction s with
  | nil => exact ⟨rfl, rfl⟩
  | cons b s ih =>
    obtain ⟨hn, ho⟩ := h b List.mem_cons_self
    have ht : ¬ timeTag[0]? = some b := fun hb => ho (Option.some.inj hb).symm
    have hb : Reads (.event 0) [b] (.event 0) [b] := by
      refine ⟨?_, rfl⟩
      show Place.next (.event 0) b = .event 0
      simp only [Place.next, if_neg hn, if_neg ht, if_neg ho]
    exact hb.append (ih fun b' hb' => h b' (List.mem_cons_of_mem b hb'))

/-- a time is shown as the form's first octets, as many as it has -/
theorem reads_time {s : Octets} (n : Nat) (h : ∀ b ∈ s, b ≠ newline ∧ b ≠ tagOpener) :
    Reads (.time n) s (.time (n + s.length)) ((bareTime.drop n).take s.length) := by
  induction s generalizing n with
  | nil => exact ⟨rfl, rfl⟩
  | cons b s ih =>
    obtain ⟨hn, ho⟩ := h b List.mem_cons_self
    have hb : Reads (.time n) [b] (.time (n + 1)) ((bareTime.drop n).take 1) := by
      refine ⟨?_, ?_⟩
      · show Place.next (.time n) b = .time (n + 1)
        simp only [Place.next, if_neg hn, if_neg ho]
      · show Place.shown (.time n) b ++ [] = _
        simp only [Place.shown, if_neg ho, List.append_nil]
    have hs := hb.append (ih (n + 1) fun b' hb' => h b' (List.mem_cons_of_mem b hb'))
    have hlen : n + 1 + s.length = n + (b :: s).length := by simp only [List.length_cons]; omega
    have htake : (bareTime.drop n).take 1 ++ (bareTime.drop (n + 1)).take s.length =
        (bareTime.drop n).take (b :: s).length := by
      rw [List.length_cons, Nat.add_comm s.length 1, List.take_add, List.drop_drop]
    rwa [hlen, htake] at hs

theorem reads_timeEnd (n : Nat) : Reads (.time n) [tagOpener] .behind (bareTime.drop n ++ [tagOpener]) := by
  refine ⟨rfl, ?_⟩
  show Place.shown (.time n) tagOpener ++ [] = _
  simp only [Place.shown, if_true, List.append_nil]

/-- the tag is not that of the time: both its forms are shown as they are -/
def Passed (tag : Text) : Prop :=
  Reads (.event 0) (utf8 (openTag tag)) (.event 0) (utf8 (openTag tag)) ∧
    Reads (.event 0) (utf8 (closeTag tag)) (.event 0) (utf8 (closeTag tag))

instance (tag : Text) : Decidable (Passed tag) := inferInstanceAs (Decidable (_ ∧ _))

/-- a field of an event that is not its time is shown as it is -/
theorem reads_element {tag content : Text} (ht : Passed tag) (h : Plain content) :
    Reads (.event 0) (utf8 (element tag content)) (.event 0) (utf8 (element tag content)) := by
  rw [element_eq, utf8_append, utf8_append]
  exact (ht.1.append (reads_content fun b hb => ne_of_plain h hb)).append ht.2

theorem reads_timeElement (s : Stamp) : Reads (.event 0) (utf8 (element "Timestamp".toList s.text)) .behind
    (utf8 (element "Timestamp".toList Stamp.withheld.text)) := by
  have hopen : Reads (.event 0) (utf8 (openTag "Timestamp".toList)) (.time 0) (utf8 (openTag "Timestamp".toList)) := by
    decide
  have hclose : Reads .behind (utf8 "/Timestamp>".toList) .behind (utf8 "/Timestamp>".toList) := by decide
  have htime := (reads_time 0 fun b hb => ne_of_plain s.plain_text hb).append (reads_timeEnd (0 + (utf8 s.text).length))
  rw [Nat.zero_add, List.drop_zero, ← List.append_assoc, List.take_append_drop] at htime
  have hend : utf8 (closeTag "Timestamp".toList) = [tagOpener] ++ utf8 "/Timestamp>".toList := by decide
  rw [element_eq, element_eq, utf8_append, utf8_append, utf8_append, utf8_append, hend, List.append_assoc,
    List.append_assoc, ← List.append_assoc (utf8 s.text), ← List.append_assoc (utf8 Stamp.withheld.text)]
  exact hopen.append (htime.append hclose)

/-- the fields that come before the time -/
theorem reads_fields {fs : List (Text × Text)} (h : ∀ f ∈ fs, Passed f.1 ∧ Plain f.2) :
    Reads (.event 0) (utf8 (fs.flatMap fun f => element f.1 f.2)) (.event 0)
      (utf8 (fs.flatMap fun f => element f.1 f.2)) := by
  induction fs with
  | nil => exact ⟨rfl, rfl⟩
  | cons f fs ih =>
    obtain ⟨ht, hplain⟩ := h f List.mem_cons_self
    rw [List.flatMap_cons, utf8_append]
    exact (reads_element ht hplain).append (ih fun f' hf' => h f' (List.mem_cons_of_mem f hf'))

/-- **The line of an event is shown as that of the event with its time withheld.** -/
theorem reads_line {e : Event} (h : e.PlainTenants) :
    Reads (.front 0) (utf8 e.line) (.front 0) (utf8 e.withhold.line) := by
  have hline (e' : Event) : e'.line = openTag "CallStateEvent".toList ++
      (((e'.fields.take 6).flatMap fun f => element f.1 f.2) ++ (element "Timestamp".toList e'.stamp.text ++
        (closeTag "CallStateEvent".toList ++ ['\n']))) := by
    rw [Event.line, Event.text, element_eq]
    simp [Event.fields]
  have hopen : Reads (.front 0) (utf8 (openTag "CallStateEvent".toList)) (.event 0)
      (utf8 (openTag "CallStateEvent".toList)) := by decide
  have hend : Reads .behind (utf8 (closeTag "CallStateEvent".toList ++ ['\n'])) (.front 0)
      (utf8 (closeTag "CallStateEvent".toList ++ ['\n'])) := by decide
  have htags : ∀ tag ∈ ["CallId".toList, "CallerUri".toList, "CalleeUri".toList, "State".toList, "Direction".toList,
      "TenantId".toList], Passed tag := by decide
  have hplain : ∀ f ∈ e.fields.take 6, Passed f.1 ∧ Plain f.2 := fun f hf =>
    ⟨htags f.1 (List.mem_map_of_mem hf), Event.plain_fields h f (List.mem_of_mem_take hf)⟩
  have hfields := reads_fields hplain
  have hsame : e.withhold.fields.take 6 = e.fields.take 6 := rfl
  rw [hline e, hline e.withhold, hsame]
  simp only [utf8_append]
  rw [← utf8_append]
  exact hopen.append (hfields.append ((reads_timeElement e.stamp).append hend))

theorem reads_heartbeat : Reads (.front 0) (utf8 heartbeat) (.front 0) (utf8 heartbeat) := by decide

/-! ## Reading a feed -/

/-- the course of the same feed with its times withheld -/
def Course.withhold (c : Course) : Course := { c with source := c.source.withhold }

theorem Course.position_withhold (c : Course) (n : Nat) : c.withhold.position n = c.position n := by
  rw [position, withhold, Factory.events_withhold]
  rfl

theorem Course.batch_withhold (c : Course) (n : Nat) : c.withhold.batch n = (c.batch n).map Event.withhold := by
  rw [batch, c.position_withhold]
  exact congrArg Prod.fst (c.factory.events_withhold c.source c.size (n * c.size) (c.position (n * c.size)))

theorem reads_lines {es : List Event} (h : ∀ e ∈ es, e.PlainTenants) :
    Reads (.front 0) (es.map fun e => utf8 e.line).flatten (.front 0)
      ((es.map Event.withhold).map fun e => utf8 e.line).flatten := by
  induction es with
  | nil => exact ⟨rfl, rfl⟩
  | cons e es ih =>
    exact (reads_line (h e List.mem_cons_self)).append (ih fun e' he' => h e' (List.mem_cons_of_mem e he'))

theorem reads_portion (c : Course) (p : Portion) : Reads (.front 0) (c.octets p) (.front 0) (c.withhold.octets p) := by
  cases p with
  | heartbeat =>
    rw [Course.octets_heartbeat, Course.octets_heartbeat]
    exact reads_heartbeat
  | batch n =>
    rw [Course.octets, Course.octets, Course.lines, Course.lines, c.batch_withhold]
    exact reads_lines (c.plain_batch n)

theorem reads_portions (c : Course) (ps : List Portion) :
    Reads (.front 0) (ps.flatMap c.octets) (.front 0) (ps.flatMap c.withhold.octets) := by
  induction ps with
  | nil => exact ⟨rfl, rfl⟩
  | cons p ps ih =>
    rw [List.flatMap_cons, List.flatMap_cons]
    exact (reads_portion c p).append ih

theorem order_withhold (c : Course) (n : Nat) : c.withhold.order n = c.order n := by
  induction n with
  | zero => rfl
  | succ n ih => rw [Course.order, Course.order, ih]; rfl

/-- **A feed shown without its times is the feed drawn without them.** -/
theorem withhold_opening (c : Course) (n : Nat) : withhold (c.opening n) = c.withhold.opening n := by
  rw [Course.opening, Course.opening, order_withhold]
  exact (reads_portions c (c.order n)).2

end CallFeed.Feed
