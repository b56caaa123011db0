/-
What was logged reads back.

The text of a length of time has the largest unit that it fills and its fraction without trailing zeros, but it is exact:
whatever the unit, the digits come to the nanoseconds that were written. So a log line tells all that was noted.

- `Duration.ofText?_text`: the text of a length of time says its nanoseconds;
- `Note.wait?_line`, `Note.beat?_line`: a line says what was noted, and only of what it is a line of.
-/
import CallFeed.Log.Reading
import CallFeed.Proofs.Toml.Integers

namespace CallFeed

open CallFeed.Text CallFeed.Toml
open CallFeed.Feed (afterPrefix? afterPrefix?_append)

theorem Text.leadingNumber?_decimal (n : Nat) {c : Char} (hc : c.isDigit = false) (t : Text) :
    leadingNumber? (decimal n ++ c :: t) = some (n, c :: t) := by
  have hdigits : ∀ d ∈ decimal n, d.isDigit = true := fun d hd => isDigit_of_mem_decimal hd
  obtain ⟨htake, hdrop⟩ := takeWhile_append_stop hdigits hc t
  unfold leadingNumber?
  rw [htake, hdrop]
  split
  · rename_i hnil
    exact absurd hnil (decimal_ne_nil n)
  · rw [natOf_decimal]

namespace Duration

/-! ## Fractions -/

/-- zeros behind digits are powers of ten -/
theorem natOf_append_zeros (ds : Text) (k : Nat) :
    natOf (ds ++ List.replicate k '0') = natOf ds * Number.tenTo k := by
  induction k with
  | zero => rw [List.replicate_zero, List.append_nil, Number.tenTo_zero, Nat.mul_one]
  | succ k ih =>
    have hlast : natOf (ds ++ List.replicate k '0' ++ ['0']) = natOf (ds ++ List.replicate k '0') * 10 := by
      rw [natOf_eq, List.foldl_append, ← natOf_eq]
      rfl
    rw [List.replicate_succ', ← List.append_assoc, hlast, ih, Number.tenTo_succ, Nat.mul_assoc]

/-- digits are those that are left without trailing zeros, and the zeros -/
theorem exists_zeros (ds : Text) :
    ∃ k, ds = (ds.reverse.dropWhile (· == '0')).reverse ++ List.replicate k '0' := by
  have hzeros : ∀ c ∈ ds.reverse.takeWhile (· == '0'), c = '0' := fun c hc => by
    simpa using List.mem_takeWhile_imp hc
  have hreplicate := List.eq_replicate_of_mem hzeros
  refine ⟨(ds.reverse.takeWhile (· == '0')).length, ?_⟩
  have hsplit : ds.reverse = List.replicate (ds.reverse.takeWhile (· == '0')).length '0' ++
      ds.reverse.dropWhile (· == '0') := by
    rw [← hreplicate, List.takeWhile_append_dropWhile]
  have hback := congrArg List.reverse hsplit
  rwa [List.reverse_reverse, List.reverse_append, List.reverse_replicate] at hback

/-- **A fraction is exact**: it is left out for none, and otherwise its digits come to it. -/
theorem fraction_cases {places n : Nat} (h : n < Number.tenTo places) : fraction places n = [] ∧ n = 0 ∨
    ∃ ds, fraction places n = '.' :: ds ∧ (∀ c ∈ ds, c.isDigit = true) ∧ ds.length ≤ places ∧
      natOf ds * Number.tenTo (places - ds.length) = n := by
  by_cases hn : n = 0
  · exact Or.inl ⟨if_pos hn, hn⟩
  · refine Or.inr ⟨_, if_neg hn, ?_⟩
    obtain ⟨k, hk⟩ := exists_zeros (padded places n)
    generalize ((padded places n).reverse.dropWhile (· == '0')).reverse = ds at hk
    have hplaces : places ≠ 0 := by
      rintro rfl
      exact hn (Nat.lt_one_iff.1 h)
    obtain ⟨width, rfl⟩ := Nat.exists_eq_succ_of_ne_zero hplaces
    have hlength : ds.length + k = width + 1 := by
      have := congrArg List.length hk
      rw [length_padded h, List.length_append, List.length_replicate] at this
      exact this.symm
    have hvalue : natOf ds * Number.tenTo k = n := by rw [← natOf_append_zeros, ← hk, natOf_padded]
    have hzeros : width + 1 - ds.length = k := by omega
    refine ⟨fun c hc => isDigit_of_mem_padded (hk ▸ List.mem_append_left _ hc), by omega, ?_⟩
    rw [hzeros]
    exact hvalue

/-! ## Units -/

/-- a unit starts neither with a digit nor with a point -/
theorem exists_cons_of_places? {unit : Text} {places : Nat} (h : places? unit = some places) :
    ∃ c t, unit = c :: t ∧ c.isDigit = false ∧ c ≠ '.' := by
  unfold places? at h
  split at h
  · rename_i hu
    exact ⟨'s', [], hu, by decide, by decide⟩
  · split at h
    · rename_i hu
      exact ⟨'m', ['s'], hu, by decide, by decide⟩
    · split at h
      · rename_i hu
        exact ⟨'µ', ['s'], hu, by decide, by decide⟩
      · split at h
        · rename_i hu
          exact ⟨'n', ['s'], hu, by decide, by decide⟩
        · cases h

theorem splitFraction_of_ne {c : Char} (h : c ≠ '.') (t : Text) : splitFraction (c :: t) = ([], c :: t) := by
  unfold splitFraction
  split
  · rename_i heq
    exact absurd (List.cons.inj heq).1 h
  · rfl

/-- **So many units read back**, whatever the unit. -/
theorem ofText?_inUnits {unit : String} {places : Nat} (h : places? unit.toList = some places) (nanos : Nat) :
    ofText? (inUnits places nanos unit) = some nanos := by
  have hwhole : nanos / Number.tenTo places * Number.tenTo places + nanos % Number.tenTo places = nanos :=
    Nat.div_add_mod' nanos _
  obtain ⟨c, t, hunit, hc, hpoint⟩ := exists_cons_of_places? h
  rw [hunit] at h
  unfold inUnits ofText?
  rw [hunit, List.append_assoc]
  rcases fraction_cases (Nat.mod_lt nanos (Number.tenTo_pos places)) with ⟨hnone, hzero⟩ | ⟨ds, hds, hdigits, hlength, hvalue⟩
  · rw [hnone, List.nil_append, leadingNumber?_decimal _ hc]
    simp only [Option.bind_eq_bind, Option.bind_some, splitFraction_of_ne hpoint, h, List.length_nil, Nat.zero_le,
      if_true]
    rw [hzero] at hwhole
    rw [show natOf [] = 0 from rfl, Nat.zero_mul, hwhole]
  · obtain ⟨htake, hdrop⟩ := takeWhile_append_stop hdigits hc t
    rw [hds, List.cons_append, leadingNumber?_decimal _ (by decide)]
    simp only [Option.bind_eq_bind, Option.bind_some, splitFraction, htake, hdrop, h, hlength, if_true, hvalue, hwhole]

/-- **The text of a length of time says its nanoseconds.** -/
theorem ofText?_text (nanos : Nat) : ofText? (text nanos) = some nanos := by
  unfold text
  split
  · exact ofText?_inUnits rfl nanos
  · split
    · exact ofText?_inUnits rfl nanos
    · split
      · exact ofText?_inUnits rfl nanos
      · exact ofText?_inUnits rfl nanos

/-- a character that the text of a length of time can have -/
def isTextChar (c : Char) : Bool := c.isDigit || c == '.' || c == 's' || c == 'm' || c == 'µ' || c == 'n'

theorem isTextChar_of_isDigit {c : Char} (h : c.isDigit = true) : isTextChar c = true := by
  unfold isTextChar
  rw [h]
  rfl

theorem isTextChar_of_mem_inUnits {unit : String} (hunit : unit.toList.all isTextChar = true) {places nanos : Nat}
    {c : Char} (h : c ∈ inUnits places nanos unit) : isTextChar c = true := by
  unfold inUnits at h
  rw [List.mem_append, List.mem_append] at h
  rcases h with (h | h) | h
  · exact isTextChar_of_isDigit (isDigit_of_mem_decimal h)
  · rcases fraction_cases (Nat.mod_lt nanos (Number.tenTo_pos places)) with ⟨hnone, -⟩ | ⟨ds, hds, hdigits, -⟩
    · rw [hnone] at h
      cases h
    · rw [hds] at h
      rcases List.mem_cons.1 h with rfl | h
      · rfl
      · exact isTextChar_of_isDigit (hdigits c h)
  · exact List.all_eq_true.1 hunit c h

theorem isTextChar_of_mem_text {nanos : Nat} {c : Char} (h : c ∈ text nanos) : isTextChar c = true := by
  unfold text at h
  split at h
  · exact isTextChar_of_mem_inUnits (by decide) h
  · split at h
    · exact isTextChar_of_mem_inUnits (by decide) h
    · split at h
      · exact isTextChar_of_mem_inUnits (by decide) h
      · exact isTextChar_of_mem_inUnits (by decide) h

end Duration

/-! ## Lines -/

namespace Note

/-- the events and the nanoseconds of a wait that was noted -/
def wait? : Note → Option (Nat × Nat)
  | .ahead events sleep => some (events, sleep)
  | .heartbeat _ => none

/-- the events of a heartbeat that was noted -/
def beat? : Note → Option Nat
  | .ahead _ _ => none
  | .heartbeat events => some events

/-- **The line of a wait says its events and its nanoseconds**, and no other line does. -/
theorem wait?_line (n : Note) : n.line.wait? = n.wait? := by
  cases n with
  | heartbeat events => rfl
  | ahead events sleep =>
    have hchars : ∀ c ∈ Duration.text sleep, (c != ']') = true := by
      intro c hc
      rw [bne_iff_ne]
      rintro rfl
      exact absurd (Duration.isTextChar_of_mem_text hc) (by decide)
    obtain ⟨htake, hdrop⟩ := takeWhile_append_stop (p := (· != ']')) (c := ']') hchars rfl []
    have hnumber (rest : Text) : leadingNumber? (decimal events ++ (", sleep=".toList ++ rest)) =
        some (events, ", sleep=".toList ++ rest) := leadingNumber?_decimal events (by decide) _
    simp only [line, LogLine.wait?, List.append_assoc, afterPrefix?_append, hnumber, htake, hdrop,
      Duration.ofText?_text, Option.bind_eq_bind, Option.bind_some, if_true, wait?]

/-- **The line of a heartbeat says its events**, and no other line does. -/
theorem beat?_line (n : Note) : n.line.beat? = n.beat? := by
  cases n with
  | ahead events sleep => rfl
  | heartbeat events =>
    have hnumber : leadingNumber? (decimal events ++ [']']) = some (events, [']']) :=
      leadingNumber?_decimal events (by decide) []
    simp only [line, LogLine.beat?, List.append_assoc, afterPrefix?_append, hnumber, Option.bind_eq_bind,
      Option.bind_some, if_true, beat?]

end Note

end CallFeed
