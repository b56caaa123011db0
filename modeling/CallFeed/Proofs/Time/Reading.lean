/-
The text of a moment reads back.

- `fixed?_padded`: a part of the text is read by its width;
- `ofText?_text`: the text says the date and the time of day that it was written from;
- `secs_calendar`: and counted through the calendar these come to the moment's seconds.
-/
import CallFeed.Proofs.Time.Text
import CallFeed.Proofs.Toml.Integers
import CallFeed.Time.Reading

namespace CallFeed

open CallFeed.Text CallFeed.Toml

/-! ## Parts of a text -/

/-- **A number that fits its width is read by it.** -/
theorem fixed?_padded {width n : Nat} (h : n < Number.tenTo (width + 1)) (rest : Text) :
    fixed? (width + 1) (padded (width + 1) n ++ rest) = some (n, rest) := by
  have hlen := length_padded h
  have htake : (padded (width + 1) n ++ rest).take (width + 1) = padded (width + 1) n := List.take_left' hlen
  have hdrop : (padded (width + 1) n ++ rest).drop (width + 1) = rest := List.drop_left' hlen
  have hall : (padded (width + 1) n).all Char.isDigit = true := List.all_eq_true.2 fun c hc => isDigit_of_mem_padded hc
  simp only [fixed?, htake, hdrop, hlen, hall, and_self, if_true, readDigits_padded .tooLarge (width + 1) (Nat.le_of_lt h)]

theorem after?_cons (c : Char) (t : Text) : after? c (c :: t) = some t := if_pos rfl

namespace CalendarTime

theorem yearDigits?_append {ds : Text} {n : Nat} (hne : ds ≠ []) (hds : ∀ c ∈ ds, c.isDigit = true)
    (hread : readDigits 10 Moment.firstYear.natAbs .tooLarge 0 ds = .ok n) (rest : Text) :
    yearDigits? (ds ++ '-' :: rest) = some (n, '-' :: rest) := by
  obtain ⟨htake, hdrop⟩ := takeWhile_append_stop hds (show Char.isDigit '-' = false by decide) rest
  unfold yearDigits?
  rw [htake, hdrop]
  cases ds with
  | nil => exact absurd rfl hne
  | cons c ds =>
    dsimp only
    rw [hread]

theorem splitSign_padded (width n : Nat) (rest : Text) :
    splitSign (padded width n ++ rest) = (none, padded width n ++ rest) := by
  obtain ⟨c, t, hc⟩ := List.exists_cons_of_ne_nil (padded_ne_nil width n)
  have hdigit : c.isDigit = true := isDigit_of_mem_padded (hc ▸ List.mem_cons_self)
  rw [hc]
  exact splitSign_of_isDigit hdigit (t ++ rest)

/-- **A year reads back**, whatever its sign and its width. -/
theorem year?_yearText {y : Int} (h : y.natAbs ≤ Moment.firstYear.natAbs) (rest : Text) :
    year? (Moment.yearText y ++ '-' :: rest) = some (y, '-' :: rest) := by
  have hpadded : yearDigits? (padded 4 y.natAbs ++ '-' :: rest) = some (y.natAbs, '-' :: rest) :=
    yearDigits?_append (padded_ne_nil 4 _) (fun c hc => isDigit_of_mem_padded hc) (readDigits_padded .tooLarge 4 h) rest
  have hdecimal : yearDigits? (decimal y.natAbs ++ '-' :: rest) = some (y.natAbs, '-' :: rest) :=
    yearDigits?_append (decimal_ne_nil _) (fun c hc => isDigit_of_mem_decimal hc) (readDigits_decimal .tooLarge h) rest
  unfold year?
  rcases Moment.yearText_cases y with ⟨hy, ht⟩ | ⟨hy, ht⟩ | ⟨hy, ht⟩
  · have hvalue : -Int.ofNat y.natAbs = y := by
      rw [Int.ofNat_eq_natCast]
      omega
    rw [ht, List.cons_append, splitSign, hpadded]
    exact congrArg (fun v => some (v, '-' :: rest)) hvalue
  · rw [ht, splitSign_padded, hpadded]
    exact congrArg (fun v => some (v, '-' :: rest)) (Int.natAbs_of_nonneg (by omega))
  · rw [ht, List.cons_append, splitSign, hdecimal]
    exact congrArg (fun v => some (v, '-' :: rest)) (Int.natAbs_of_nonneg (by omega))

end CalendarTime

namespace Moment

/-- the date and the time of day of a moment -/
def calendar (m : Moment) : CalendarTime := ⟨m.date, m.hour, m.minute, m.second⟩

/-- **The text says the date and the time of day of the moment.** -/
theorem ofText?_text (m : Moment) : CalendarTime.ofText? m.text = some m.calendar := by
  have hyear : m.date.year.natAbs ≤ firstYear.natAbs := by
    have h := m.there.1
    have hdate : (dateOf m.secs).year = m.date.year := rfl
    rw [hdate] at h
    simp only [firstYear, lastYear] at h ⊢
    omega
  have hmonth : m.date.month < Number.tenTo (1 + 1) := m.month_lt
  have hday : m.date.day < Number.tenTo (1 + 1) := m.day_lt
  have hhour : m.hour < Number.tenTo (1 + 1) := Nat.lt_trans m.hour_lt (by decide)
  have hminute : m.minute < Number.tenTo (1 + 1) := Nat.lt_trans m.minute_lt (by decide)
  have hsecond : m.second < Number.tenTo (1 + 1) := Nat.lt_of_le_of_lt m.second_le (by decide)
  unfold text CalendarTime.ofText?
  simp only [List.append_assoc, List.cons_append, CalendarTime.year?_yearText hyear, after?_cons, fixed?_padded hmonth,
    fixed?_padded hday, fixed?_padded hhour, fixed?_padded hminute, fixed?_padded hsecond, Option.bind_eq_bind,
    Option.bind_some, if_true]
  rfl

theorem valid_date (m : Moment) : m.date.Valid := Date.ofDay_valid _

/-- **Counted through the calendar, what the text says comes to the moment's seconds**, before 1970 too. -/
theorem secs_calendar (m : Moment) : m.calendar.secs = m.secs := by
  have hday : m.date.toDay = m.secs / 86400 := Date.toDay_ofDay _
  have hofDay := m.secondOfDay_eq
  have hlast : min m.second 59 = m.secondOfDay % 60 := by
    cases hleap : m.isLeap with
    | true =>
      have h60 := second_of_leap hleap
      unfold second at h60 ⊢
      rw [hleap, if_pos rfl] at h60 ⊢
      omega
    | false =>
      have hlt := second_of_not_leap hleap
      unfold second at hlt ⊢
      rw [hleap, if_neg (by decide)] at hlt ⊢
      omega
  unfold CalendarTime.secs calendar
  rw [hday, hlast, ← hofDay]
  unfold secondOfDay
  omega

theorem isLeap_calendar (m : Moment) : m.calendar.isLeap = m.isLeap := by
  rw [Bool.eq_iff_iff, isLeap_iff_second]
  exact beq_iff_eq

end Moment

end CallFeed
