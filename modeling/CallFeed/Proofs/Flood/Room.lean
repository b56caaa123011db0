/-
The room that batches need.

A flood draws every batch into one buffer, and sets aside for it what so many lines take at about the length of a line.
No line is longer than that, so no batch outgrows the buffer, and no call of the writer is offered more than it holds.

- `Factory.length_batch_le`: the octets of a batch, whether or not it was stopped short;
- `Point.Fits`, `step_fits`: what is left to write fits at every point of a flood, and so did what each call was offered;
- `batches_fit`: from the longest line to the calls of a whole flood.
-/
import CallFeed.Proofs.Event.Width
import CallFeed.Proofs.Flood.Steps

namespace CallFeed

open CallFeed.Text

namespace Factory

variable (f : Factory) (src : Source)

/-- the longest line that can be drawn is shorter than what is set aside for a line -/
theorem length_line_le_hint {id : Nat} (h : id ≤ lastCallId) (pos : Nat) :
    (utf8 (f.event src id pos).1.line).length ≤ lineSizeHint := by
  have hline := (f.length_line_le src h pos).2
  have hstamp := (src.stamp id).length_text_le
  unfold lineSizeHint
  omega

/-- **A batch has no more octets than are set aside for its lines**, also one that is stopped short. -/
theorem length_batch_le (count counter pos : Nat) :
    (utf8 (f.batch src count counter pos).text).length ≤ count * lineSizeHint := by
  induction count generalizing counter pos with
  | zero => exact Nat.zero_le _
  | succ count ih =>
    unfold batch
    split
    · exact Nat.zero_le _
    · rename_i hroom
      have hline := f.length_line_le_hint src (show counter + 1 ≤ lastCallId by omega) pos
      have hrest := ih (counter + 1) (f.event src (counter + 1) pos).2
      dsimp only
      rw [utf8_append, List.length_append, Nat.succ_mul, Nat.add_comm]
      exact Nat.add_le_add hrest hline

end Factory

namespace Flooder

/-- the octets set aside for a batch -/
def reserve (f : Flooder) : Nat := f.batchSize * lineSizeHint

theorem length_draw_le (f : Flooder) (src : Source) (r : Run) : (utf8 (f.draw src r).2.1).length ≤ f.reserve :=
  f.factory.length_batch_le src f.batchSize r.counter r.pos

theorem length_heartbeat_le (f : Flooder) : (utf8 heartbeat).length ≤ f.reserve := by
  have hlength : (utf8 heartbeat).length = 50 := by decide
  have hsize := f.batchSize_pos
  unfold reserve lineSizeHint
  omega

/-- what is left to write fits into what is set aside -/
def Leaves (f : Flooder) : Stage → Prop
  | .write _ rest => rest.length ≤ f.reserve
  | _ => True

/-- at a point: what is left to write fits into what is set aside, and so did what each call was offered -/
structure Fits (f : Flooder) (p : Point) : Prop where
  left : f.Leaves p.stage
  calls : ∀ c ∈ p.run.calls, c.offered.length ≤ f.reserve

variable {f : Flooder} {src : Source} {w : Writer}

/-- a call is offered what is left, and leaves no more -/
theorem Fits.record {r : Run} {p : Portion} {rest : Octets} (h : f.Fits ⟨r, .write p rest⟩) :
    (r.nextCall w rest).left.length ≤ f.reserve ∧
      ∀ c ∈ (r.record (r.nextCall w rest)).calls, c.offered.length ≤ f.reserve := by
  have hrest : rest.length ≤ f.reserve := h.left
  constructor
  · have hparts := congrArg List.length (r.nextCall w rest).taken_append_left
    have hoffered : (r.nextCall w rest).offered = rest := rfl
    rw [List.length_append, hoffered] at hparts
    omega
  · intro c hc
    rw [Run.calls_record, Array.mem_push] at hc
    rcases hc with hc | rfl
    · exact h.calls c hc
    · exact hrest

/-- **A step keeps within what is set aside.** -/
theorem step_fits {p q : Point} (hs : f.Step src w p q) (h : f.Fits p) : f.Fits q := by
  cases hs with
  | call hne hok => exact ⟨h.record.1, h.record.2⟩
  | fail hne he => exact ⟨trivial, h.record.2⟩
  | @draw r r' text ht hd =>
    have hdrawn := f.length_draw_le src r
    rw [hd] at hdrawn
    exact ⟨hdrawn, calls_draw hd ▸ h.calls⟩
  | spent ht hd => exact ⟨trivial, calls_draw hd ▸ h.calls⟩
  | @pace r => exact ⟨trivial, (Run.pace_totals f.rate r).2 ▸ h.calls⟩
  | beat hb => exact ⟨f.length_heartbeat_le, h.calls⟩
  | _ => exact ⟨trivial, h.calls⟩

theorem fits_of_reaches {p : Point} (h : f.Reaches src w .start p) : f.Fits p :=
  h.keeps (fun _ _ hs hp => step_fits hs hp) ⟨f.length_heartbeat_le, fun c hc => absurd hc (Array.not_mem_empty c)⟩

/-- **No batch outgrows its buffer.** The line of an event that can be drawn, at whatever time, is ASCII and has 301
octets at most, and 298 when its year has four digits. So as many lines as are asked for, or as there are numbers for,
fit into what is set aside for them. In every flood so does each batch, even one that the numbers run out for, and no
call of the writer is ever offered more. -/
theorem batches_fit (src : Source) :
    (∀ (g : Factory) (id pos : Nat), id ≤ lastCallId →
      let e := (g.event src id pos).1
      IsAscii e.line ∧ (utf8 e.line).length ≤ 301 ∧
        ((∀ m, src.stamp id = .moment m → 0 ≤ m.date.year ∧ m.date.year ≤ 9999) → (utf8 e.line).length ≤ 298)) ∧
    (∀ (g : Factory) (count : Nat) (d : Draft), ∃ t, (g.renderBatch src count d).1.buffer = d.buffer ++ t ∧
      (utf8 t).length ≤ count * lineSizeHint) ∧
    ∀ f : Flooder,
      (∀ r, (utf8 (f.draw src r).2.1).length ≤ f.batchSize * lineSizeHint) ∧
      ∀ (w : Writer) (p : Point), f.Reaches src w .start p →
        (∀ q rest, p.stage = .write q rest → rest.length ≤ f.batchSize * lineSizeHint) ∧
        ∀ c ∈ p.run.calls, c.offered.length ≤ f.batchSize * lineSizeHint := by
  refine ⟨?_, ?_, ?_⟩
  · intro g id pos hid e
    obtain ⟨hascii, hline⟩ := g.length_line_le src hid pos
    have hstamp := (src.stamp id).length_text_le
    refine ⟨hascii, Nat.le_trans hline (by omega), fun hyear => ?_⟩
    have hfour : (src.stamp id).InFourDigits := hyear
    rw [hfour.length_text] at hline
    exact hline
  · intro g count d
    exact ⟨(g.batch src count d.counter d.pos).text, rfl, g.length_batch_le src count d.counter d.pos⟩
  · intro f
    refine ⟨f.length_draw_le src, fun w p hp => ?_⟩
    have hfits : f.Fits p := fits_of_reaches hp
    refine ⟨fun q rest hstage => ?_, hfits.calls⟩
    have hleft := hfits.left
    rw [hstage] at hleft
    exact hleft

/-- the last event there can be, with the widest fields, in the last year there is and in the last of four digits -/
theorem widest_lines_fit :
    let last : Moment := ⟨8210266876799, 0, by decide +kernel⟩
    let four : Moment := ⟨253402300799, 0, by decide +kernel⟩
    let src (m : Moment) : Source := { words := Words.cycle #[4294967295], stamp := fun _ => .moment m }
    let line (m : Moment) : Text := ((⟨false⟩ : Factory).event (src m) lastCallId 0).1.line
    lastCallId ≤ lastCallId ∧ IsAscii (line last) ∧ last.text = "+262142-12-31T23:59:59Z".toList ∧
      (utf8 (line last)).length = 301 ∧ four.text = "9999-12-31T23:59:59Z".toList ∧ (utf8 (line four)).length = 298 := by
  intro last four src line
  have hid : lastCallId ≤ lastCallId := Nat.le_refl _
  obtain ⟨hascii, hlast, -⟩ := (batches_fit (src last)).1 ⟨false⟩ lastCallId 0 hid
  obtain ⟨-, -, hfour⟩ := (batches_fit (src four)).1 ⟨false⟩ lastCallId 0 hid
  have hyear : ∀ m, (src four).stamp lastCallId = .moment m → 0 ≤ m.date.year ∧ m.date.year ≤ 9999 := by
    intro m hm
    obtain rfl : four = m := Stamp.moment.inj hm
    decide +kernel
  exact ⟨hid, hascii, by decide +kernel, Nat.le_antisymm hlast (by decide +kernel), by decide +kernel,
    Nat.le_antisymm (hfour hyear) (by decide +kernel)⟩

end Flooder

end CallFeed
