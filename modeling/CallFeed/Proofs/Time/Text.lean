/-
What the text of a time tells: everything but the fraction of its second.

The year is written in as many characters as it needs, and all after it in three each, so the parts are found from the
end of the text.

- `text_parts`: moments of the same text have the same date and the same time of day;
- `text_eq_iff`: a text is that of one second, a leap second apart from the one before it.
-/
import CallFeed.Proofs.Text.Numeral
import CallFeed.Time.Moment

namespace CallFeed

open CallFeed.Text

namespace Moment

/-! ## Years -/

/-- only a year with a sign starts with one -/
theorem padded_ne_cons_sign {c : Char} (h : c.isDigit = false) (width n : Nat) (t : Text) : padded width n ≠ c :: t := by
  intro he
  have hc := isDigit_of_mem_padded (he ▸ List.mem_cons_self : c ∈ padded width n)
  rw [h] at hc
  cases hc

/-- the three kinds of years -/
theorem yearText_cases (y : Int) : y < 0 ∧ yearText y = '-' :: padded 4 y.natAbs ∨
    (0 ≤ y ∧ y ≤ 9999) ∧ yearText y = padded 4 y.natAbs ∨ 9999 < y ∧ yearText y = '+' :: decimal y.natAbs := by
  unfold yearText
  split
  · rename_i h
    exact .inl ⟨h, rfl⟩
  · rename_i h
    split
    · rename_i h'
      exact .inr (.inl ⟨⟨Int.not_lt.1 h, h'⟩, rfl⟩)
    · rename_i h'
      exact .inr (.inr ⟨Int.not_le.1 h', rfl⟩)

theorem yearText_inj {y y' : Int} (h : yearText y = yearText y') : y = y' := by
  have hminus (n : Nat) (t : Text) : padded 4 n ≠ '-' :: t := padded_ne_cons_sign (by decide) 4 n t
  have hplus (n : Nat) (t : Text) : padded 4 n ≠ '+' :: t := padded_ne_cons_sign (by decide) 4 n t
  -- years of one kind are told apart by their numerals, years of two kinds by the sign
  rcases yearText_cases y with ⟨hy, ht⟩ | ⟨hy, ht⟩ | ⟨hy, ht⟩ <;>
    rcases yearText_cases y' with ⟨hy', ht'⟩ | ⟨hy', ht'⟩ | ⟨hy', ht'⟩ <;> rw [ht, ht'] at h
  · have := padded_inj (List.cons.inj h).2
    omega
  · exact absurd h.symm (hminus _ _)
  · cases h
  · exact absurd h (hminus _ _)
  · have := padded_inj h
    omega
  · exact absurd h (hplus _ _)
  · cases h
  · exact absurd h.symm (hplus _ _)
  · have := decimal_inj (List.cons.inj h).2
    omega

/-! ## Parts of a text -/

theorem month_lt (m : Moment) : m.date.month < 100 := by
  have h := Date.ofDay_valid (m.secs / 86400)
  have : m.date.month ≤ 12 := h.2.1
  omega

theorem monthLength_le (y : Int) (month : Nat) : monthLength y month ≤ 31 := by
  unfold monthLength
  split <;> first | decide | skip
  split <;> decide

theorem day_lt (m : Moment) : m.date.day < 100 := by
  have h := Date.ofDay_valid (m.secs / 86400)
  have hday : m.date.day ≤ monthLength m.date.year m.date.month := h.2.2.2
  have := monthLength_le m.date.year m.date.month
  omega

theorem secondOfDay_lt (m : Moment) : m.secondOfDay < 86400 := by
  have h := Int.emod_lt_of_pos m.secs (show (0 : Int) < 86400 by decide)
  have h0 := Int.emod_nonneg m.secs (show (86400 : Int) ≠ 0 by decide)
  unfold secondOfDay
  omega

theorem hour_lt (m : Moment) : m.hour < 24 := by
  have := m.secondOfDay_lt
  unfold hour
  omega

theorem minute_lt (m : Moment) : m.minute < 60 := Nat.mod_lt _ (by decide)

theorem second_le (m : Moment) : m.second ≤ 60 := by
  unfold second
  split <;> omega

/-- a sign and a number of two digits take three characters -/
theorem length_part {n : Nat} (h : n < 100) (c : Char) : (c :: padded 2 n).length = 3 :=
  congrArg Nat.succ (@length_padded 1 _ h)

theorem date_eq {d d' : Date} (hy : d.year = d'.year) (hm : d.month = d'.month) (hd : d.day = d'.day) : d = d' := by
  cases d
  cases d'
  simp_all

/-- **Moments of the same text have the same date and the same time of day.** -/
theorem text_parts {m m' : Moment} (h : m.text = m'.text) :
    m.date = m'.date ∧ m.hour = m'.hour ∧ m.minute = m'.minute ∧ m.second = m'.second := by
  unfold text at h
  have peel {s s' : Text} {c : Char} {n n' : Nat} (hn : n < 100) (hn' : n' < 100)
      (h : s ++ c :: padded 2 n = s' ++ c :: padded 2 n') : s = s' ∧ n = n' := by
    obtain ⟨hs, hc⟩ := List.append_inj' h ((length_part hn c).trans (length_part hn' c).symm)
    exact ⟨hs, padded_inj (List.cons.inj hc).2⟩
  have hsecond (m : Moment) : m.second < 100 := Nat.lt_of_le_of_lt m.second_le (by decide)
  have hminute (m : Moment) : m.minute < 100 := Nat.lt_trans m.minute_lt (by decide)
  have hhour (m : Moment) : m.hour < 100 := Nat.lt_trans m.hour_lt (by decide)
  obtain ⟨h, -⟩ := List.append_inj' h rfl
  obtain ⟨h, hs⟩ := peel (hsecond m) (hsecond m') h
  obtain ⟨h, hmin⟩ := peel (hminute m) (hminute m') h
  obtain ⟨h, hh⟩ := peel (hhour m) (hhour m') h
  obtain ⟨h, hd⟩ := peel m.day_lt m'.day_lt h
  obtain ⟨h, hmon⟩ := peel m.month_lt m'.month_lt h
  exact ⟨date_eq (yearText_inj h) hmon hd, hh, hmin, hs⟩

/-! ## Seconds -/

/-- a leap second is the last of its minute -/
theorem second_of_leap {m : Moment} (h : m.isLeap = true) : m.second = 60 := by
  have hn : Duration.nanosPerSecond ≤ m.nanos := of_decide_eq_true h
  have hlast : m.secs % 60 = 59 := by
    rcases m.there.2 with hlt | ⟨-, hlast⟩
    · omega
    · exact hlast
  unfold second secondOfDay
  rw [if_pos h]
  omega

theorem second_of_not_leap {m : Moment} (h : m.isLeap = false) : m.second < 60 := by
  unfold second
  rw [h]
  simp only [Bool.false_eq_true, if_false]
  omega

theorem isLeap_iff_second (m : Moment) : m.isLeap = true ↔ m.second = 60 := by
  cases h : m.isLeap with
  | true => exact iff_of_true rfl (second_of_leap h)
  | false =>
    have := second_of_not_leap h
    exact iff_of_false nofun (by omega)

/-- the second of the day is made up of the hour, the minute and the second of the minute -/
theorem secondOfDay_eq (m : Moment) : m.secondOfDay = m.hour * 3600 + m.minute * 60 + m.secondOfDay % 60 := by
  unfold hour minute
  omega

/-- **A text is that of one second**, and a leap second has another than the second before it. -/
theorem text_eq_iff {m m' : Moment} : m.text = m'.text ↔ m.secs = m'.secs ∧ m.isLeap = m'.isLeap := by
  constructor
  · intro h
    obtain ⟨hdate, hhour, hminute, hsecond⟩ := text_parts h
    have hleap : m.isLeap = m'.isLeap := by
      rw [Bool.eq_iff_iff, isLeap_iff_second, isLeap_iff_second, hsecond]
    have hday : m.secs / 86400 = m'.secs / 86400 := by
      have h := congrArg Date.toDay hdate
      unfold date dateOf at h
      rwa [Date.toDay_ofDay, Date.toDay_ofDay] at h
    have hlast : m.secondOfDay % 60 = m'.secondOfDay % 60 := by
      unfold second at hsecond
      rw [hleap] at hsecond
      exact Nat.add_right_cancel hsecond
    have hofDay : m.secondOfDay = m'.secondOfDay := by
      rw [m.secondOfDay_eq, m'.secondOfDay_eq, hhour, hminute, hlast]
    unfold secondOfDay at hofDay
    exact ⟨by omega, hleap⟩
  · rintro ⟨hsecs, hleap⟩
    simp only [text, date, dateOf, hour, minute, second, secondOfDay, hsecs, hleap]

end Moment

namespace Stamp

/-- both tell the same second, or neither tells one -/
def SameSecond : Stamp → Stamp → Prop
  | .moment m, .moment m' => m.secs = m'.secs ∧ m.isLeap = m'.isLeap
  | .withheld, .withheld => True
  | .moment _, .withheld => False
  | .withheld, .moment _ => False

/-- the text of a moment has a digit in it, the bare form has none -/
theorem text_moment_ne_withheld (m : Moment) : (Stamp.moment m).text ≠ Stamp.withheld.text := by
  intro h
  have hdigit : ∃ c ∈ m.text, c.isDigit = true := by
    obtain ⟨c, t, hc⟩ := List.exists_cons_of_ne_nil (decimal_ne_nil m.second)
    have hmem : c ∈ padded 2 m.second := List.mem_append_right _ (hc ▸ List.mem_cons_self)
    refine ⟨c, ?_, isDigit_of_mem_padded hmem⟩
    unfold Moment.text
    exact List.mem_append_left _ (List.mem_append_right _ (List.mem_cons_of_mem _ hmem))
  obtain ⟨c, hc, hd⟩ := hdigit
  have hnone : (Stamp.withheld.text.all fun c => !c.isDigit) = true := by decide
  have hmem : c ∈ Stamp.withheld.text := h ▸ hc
  have hnot := List.all_eq_true.1 hnone c hmem
  rw [hd] at hnot
  cases hnot

theorem text_eq_iff {s s' : Stamp} : s.text = s'.text ↔ s.SameSecond s' := by
  cases s with
  | moment m =>
    cases s' with
    | moment m' => exact Moment.text_eq_iff
    | withheld => exact iff_of_false (text_moment_ne_withheld m) id
  | withheld =>
    cases s' with
    | moment m' => exact iff_of_false (text_moment_ne_withheld m').symm id
    | withheld => exact iff_of_true rfl trivial

end Stamp

end CallFeed
