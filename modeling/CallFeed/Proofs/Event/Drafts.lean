/-
Drafts that are drawn up in one go or in several.

A batch goes on where the one before it stopped, in the text, in the numbers and in the words, so it makes no difference
how many lines are asked for at a time. When the numbers run out, the lines so far stay, and all of them are whole.

- `renderBatch_add`: some lines and then more are all of them at once;
- `renderBatch_of_room`, `renderBatch_beyond`: what a batch leaves behind when there are numbers for all of its lines, and
  when it is stopped;
- `alike_renderMore`: which clock the stamps are taken from makes no difference once they are withheld;
- `drafts_add_up`: the whole of it.
-/
import CallFeed.Proofs.Feed.Withheld

namespace CallFeed

open CallFeed.Feed

namespace Factory

variable (f : Factory) (src : Source)

/-- `count` more lines at the end of a draft, unless something stopped it before -/
def renderMore (count : Nat) (r : Draft × Option Fault) : Draft × Option Fault :=
  match r.2 with
  | none => f.renderBatch src count r.1
  | some fault => (r.1, some fault)

/-! ## One line after another -/

theorem renderBatch_zero (d : Draft) : f.renderBatch src 0 d = (d, none) := by
  simp [renderBatch, batch]

theorem renderBatch_of_last {d : Draft} (h : lastCallId ≤ d.counter) (count : Nat) :
    f.renderBatch src (count + 1) d = (d, some .callIdOverflow) := by
  simp [renderBatch, batch, h]

/-- a line is drawn up and counted before the next -/
theorem renderBatch_succ {d : Draft} (h : d.counter < lastCallId) (count : Nat) :
    f.renderBatch src (count + 1) d = f.renderBatch src count
      ⟨d.buffer ++ (f.event src (d.counter + 1) d.pos).1.line, d.counter + 1, (f.event src (d.counter + 1) d.pos).2⟩ := by
  simp only [renderBatch, batch, if_neg (Nat.not_le.2 h), List.append_assoc]

/-- **Some lines and then more are all of them at once**, whether or not something stops them. -/
theorem renderBatch_add (m n : Nat) (d : Draft) :
    f.renderBatch src (m + n) d = f.renderMore src n (f.renderBatch src m d) := by
  induction m generalizing d with
  | zero =>
    rw [Nat.zero_add, renderBatch_zero]
    rfl
  | succ m ih =>
    rw [Nat.succ_add]
    by_cases h : lastCallId ≤ d.counter
    · rw [renderBatch_of_last f src h, renderBatch_of_last f src h]
      rfl
    · rw [renderBatch_succ f src (Nat.lt_of_not_le h), renderBatch_succ f src (Nat.lt_of_not_le h), ih]

/-! ## All lines at once -/

/-- the lines of the next events, one after another -/
def textOf (count counter pos : Nat) : Text := (f.events src count counter pos).1.flatMap Event.line

theorem renderBatch_of_room {count : Nat} {d : Draft} (h : d.counter + count ≤ lastCallId) :
    f.renderBatch src count d = (⟨d.buffer ++ f.textOf src count d.counter d.pos, d.counter + count,
      (f.events src count d.counter d.pos).2⟩, none) := by
  simp only [renderBatch, batch_of_room f src d.pos h, textOf]

/-- **A batch that has numbers for fewer lines only** stops after these, with the last number. -/
theorem renderBatch_beyond {count : Nat} {d : Draft} (hd : d.counter ≤ lastCallId) (h : lastCallId < d.counter + count) :
    f.renderBatch src count d = (⟨d.buffer ++ f.textOf src (lastCallId - d.counter) d.counter d.pos, lastCallId,
      (f.events src (lastCallId - d.counter) d.counter d.pos).2⟩, some .callIdOverflow) := by
  have hroom : d.counter + (lastCallId - d.counter) = lastCallId := Nat.add_sub_cancel' hd
  obtain ⟨more, rfl⟩ : ∃ more, count = lastCallId - d.counter + (more + 1) :=
    ⟨count - (lastCallId - d.counter) - 1, by omega⟩
  rw [renderBatch_add, renderBatch_of_room f src (Nat.le_of_eq hroom), hroom]
  exact renderBatch_of_last f src (Nat.le_refl lastCallId) more

/-- the text is whole lines, one for each event -/
theorem lines_textOf (count counter pos : Nat) : lines (utf8 (f.textOf src count counter pos)) =
    (f.events src count counter pos).1.map fun e => utf8 e.line := by
  rw [textOf, Course.utf8_flatMap_line]
  refine lines_flatten fun l hl => ?_
  obtain ⟨e, he, rfl⟩ := List.mem_map.1 hl
  exact isLine_event (f.plain_events src count counter pos e he)

/-! ## Clocks -/

/-- behind the same text both drafts hold the same lines, in the second without the times of events -/
structure Withholds (before : Text) (d d' : Draft) : Prop where
  buffer : ∃ t t', d.buffer = before ++ t ∧ d'.buffer = before ++ t' ∧ Reads (.front 0) (utf8 t) (.front 0) (utf8 t')
  counter : d.counter = d'.counter
  pos : d.pos = d'.pos

theorem Withholds.refl (d : Draft) : Withholds d.buffer d d :=
  ⟨⟨[], [], (List.append_nil _).symm, (List.append_nil _).symm, ⟨rfl, rfl⟩⟩, rfl, rfl⟩

/-- the next event adds its line to both -/
theorem Withholds.line {before : Text} {d d' : Draft} (h : Withholds before d d') :
    Withholds before
      ⟨d.buffer ++ (f.event src (d.counter + 1) d.pos).1.line, d.counter + 1, (f.event src (d.counter + 1) d.pos).2⟩
      ⟨d'.buffer ++ (f.event src.withhold (d'.counter + 1) d'.pos).1.line, d'.counter + 1,
        (f.event src.withhold (d'.counter + 1) d'.pos).2⟩ := by
  obtain ⟨⟨t, t', ht, ht', hreads⟩, hcounter, hpos⟩ := h
  rw [← hcounter, ← hpos, event_withhold]
  have hline := reads_line (f.plain_event src (d.counter + 1) d.pos)
  refine ⟨⟨t ++ (f.event src (d.counter + 1) d.pos).1.line, t' ++ (f.event src (d.counter + 1) d.pos).1.withhold.line,
    ?_, ?_, ?_⟩, rfl, rfl⟩
  · rw [ht, List.append_assoc]
  · rw [ht', List.append_assoc]
  · rw [utf8_append, utf8_append]
    exact hreads.append hline

/-- and so does a batch, which the same stops in both -/
theorem Withholds.renderBatch {before : Text} {d d' : Draft} (h : Withholds before d d') (count : Nat) :
    Withholds before (f.renderBatch src count d).1 (f.renderBatch src.withhold count d').1 ∧
      (f.renderBatch src count d).2 = (f.renderBatch src.withhold count d').2 := by
  induction count generalizing d d' with
  | zero =>
    rw [renderBatch_zero, renderBatch_zero]
    exact ⟨h, rfl⟩
  | succ count ih =>
    by_cases hlast : lastCallId ≤ d.counter
    · rw [renderBatch_of_last f src hlast, renderBatch_of_last f src.withhold (h.counter ▸ hlast)]
      exact ⟨h, rfl⟩
    · have hlt := Nat.lt_of_not_le hlast
      rw [renderBatch_succ f src hlt, renderBatch_succ f src.withhold (h.counter ▸ hlt)]
      exact ih (h.line f src)

theorem Withholds.renderMore {before : Text} {r r' : Draft × Option Fault} (h : Withholds before r.1 r'.1)
    (hfault : r.2 = r'.2) (count : Nat) :
    Withholds before (f.renderMore src count r).1 (f.renderMore src.withhold count r').1 ∧
      (f.renderMore src count r).2 = (f.renderMore src.withhold count r').2 := by
  unfold Factory.renderMore
  rw [← hfault]
  cases r.2 with
  | none => exact h.renderBatch f src count
  | some fault => exact ⟨h, rfl⟩

/-- behind the same text both drafts hold the same but for the times of events, and the same has become of both -/
structure Alike (before : Text) (r r' : Draft × Option Fault) : Prop where
  buffer : ∃ t t', r.1.buffer = before ++ t ∧ r'.1.buffer = before ++ t' ∧ withhold (utf8 t) = withhold (utf8 t')
  counter : r.1.counter = r'.1.counter
  pos : r.1.pos = r'.1.pos
  fault : r.2 = r'.2

theorem alike_of_withholds {before : Text} {r r' w : Draft × Option Fault} (h : Withholds before r.1 w.1)
    (hfault : r.2 = w.2) (h' : Withholds before r'.1 w.1) (hfault' : r'.2 = w.2) : Alike before r r' := by
  obtain ⟨⟨t, u, ht, hu, hreads⟩, hcounter, hpos⟩ := h
  obtain ⟨⟨t', u', ht', hu', hreads'⟩, hcounter', hpos'⟩ := h'
  have hsame : u = u' := List.append_cancel_left (hu.symm.trans hu')
  refine ⟨⟨t, t', ht, ht', ?_⟩, hcounter.trans hcounter'.symm, hpos.trans hpos'.symm, hfault.trans hfault'.symm⟩
  rw [Feed.withhold, Feed.withhold, hreads.2, hreads'.2, hsame]

/-- **What comes of a draft depends neither on the clocks nor on how many goes it is drawn up in.** -/
theorem alike_renderMore {src src₁ src₂ : Source} (h₁ : src₁.words = src.words) (h₂ : src₂.words = src.words)
    (m n : Nat) (d : Draft) :
    Alike d.buffer (f.renderBatch src (m + n) d) (f.renderMore src₂ n (f.renderBatch src₁ m d)) := by
  have hw₁ : src₁.withhold = src.withhold := by rw [Source.withhold, Source.withhold, h₁]
  have hw₂ : src₂.withhold = src.withhold := by rw [Source.withhold, Source.withhold, h₂]
  obtain ⟨hwhole, hfault⟩ := (Withholds.refl d).renderBatch f src (m + n)
  rw [renderBatch_add f src.withhold] at hwhole hfault
  obtain ⟨hfirst, hfault₁⟩ := (Withholds.refl d).renderBatch f src₁ m
  obtain ⟨hboth, hfault₂⟩ := hfirst.renderMore f src₂ hfault₁ n
  rw [hw₁, hw₂] at hboth hfault₂
  exact alike_of_withholds hwhole hfault hboth hfault₂

/-- **Batches add up, and a batch is exact to the last number.** Drawn up in one go or in two, a draft holds the same but
for the times of events, has used the same numbers and words and is stopped by the same thing. As long as there are
numbers, a batch adds as many whole lines as it was asked for behind what the draft held, numbered on from its counter.
When there are not, it adds one line for each number that is left and stops with the last, having drawn the words of
these lines and no others. -/
theorem drafts_add_up (d : Draft) (h : d.counter ≤ lastCallId) :
    (∀ m n, f.renderBatch src (m + n) d = f.renderMore src n (f.renderBatch src m d)) ∧
    (∀ m n src₁ src₂, src₁.words = src.words → src₂.words = src.words →
      Alike d.buffer (f.renderBatch src (m + n) d) (f.renderMore src₂ n (f.renderBatch src₁ m d))) ∧
    ∀ n, ∃ count, (d.counter + n ≤ lastCallId → count = n) ∧
      (lastCallId < d.counter + n → count = lastCallId - d.counter) ∧
      let es := (f.events src count d.counter d.pos).1
      f.renderBatch src n d = (⟨d.buffer ++ es.flatMap Event.line, d.counter + count,
        (f.events src count d.counter d.pos).2⟩, if d.counter + n ≤ lastCallId then none else some .callIdOverflow) ∧
      es.length = count ∧ es.map Event.callId = List.range' (d.counter + 1) count ∧
      lines (utf8 (es.flatMap Event.line)) = es.map fun e => utf8 e.line := by
  refine ⟨fun m n => f.renderBatch_add src m n d, ?_, ?_⟩
  · intro m n src₁ src₂ h₁ h₂
    exact f.alike_renderMore h₁ h₂ m n d
  · intro n
    by_cases hroom : d.counter + n ≤ lastCallId
    · refine ⟨n, fun _ => rfl, fun hlast => absurd hroom (Nat.not_le.2 hlast), ?_, f.length_events src _ _ _,
        f.callId_events src _ _ _, f.lines_textOf src _ _ _⟩
      rw [if_pos hroom]
      exact f.renderBatch_of_room src hroom
    · refine ⟨lastCallId - d.counter, fun hle => absurd hle hroom, fun _ => rfl, ?_, f.length_events src _ _ _,
        f.callId_events src _ _ _, f.lines_textOf src _ _ _⟩
      rw [if_neg hroom, Nat.add_sub_cancel' h]
      exact f.renderBatch_beyond src h (Nat.lt_of_not_le hroom)

/-- a draft with two numbers left that is asked for three lines, at once and as one and two: both times it gets two, and
the last number stops it -/
theorem last_numbers_are_used :
    let f : Factory := ⟨false⟩
    let src : Source := { words := Words.cycle #[7, 4294967295] }
    let d : Draft := ⟨"<x>".toList, lastCallId - 2, 5⟩
    d.counter ≤ lastCallId ∧ f.renderBatch src 3 d = f.renderMore src 2 (f.renderBatch src 1 d) ∧
      (f.renderBatch src 3 d).1.counter = lastCallId ∧ (f.renderBatch src 3 d).2 = some .callIdOverflow ∧
      ∃ es : List Event, es.map Event.callId = [lastCallId - 1, lastCallId] ∧
        (f.renderBatch src 3 d).1.buffer = "<x>".toList ++ es.flatMap Event.line := by
  intro f src d
  have h : d.counter ≤ lastCallId := by decide
  have hleft : lastCallId - d.counter = 2 := by decide
  have hbeyond : lastCallId < d.counter + 3 := by decide
  obtain ⟨hadd, -, hbatch⟩ := f.drafts_add_up src d h
  obtain ⟨count, -, hcount, hresult, -, hids, -⟩ := hbatch 3
  rw [hcount hbeyond, hleft] at hresult hids
  rw [if_neg (Nat.not_le.2 hbeyond)] at hresult
  have hnumbers : List.range' (d.counter + 1) 2 = [lastCallId - 1, lastCallId] := by decide
  refine ⟨h, hadd 1 2, ?_, ?_, _, hids.trans hnumbers, ?_⟩
  · rw [hresult]
    show d.counter + 2 = lastCallId
    decide
  · rw [hresult]
  · rw [hresult]

end Factory

end CallFeed
