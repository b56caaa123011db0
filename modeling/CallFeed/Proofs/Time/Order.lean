/-
Moments in order, and their texts.

From year 0 to year 9999 every part of the text has one width, so texts are ordered as the parts are, one after another,
and these are ordered as time goes: the leap second behind the second before it, and before the one that follows.

- `Date.toDay_lt_toDay`: of two dates the one that comes first in year, month or day is earlier;
- `packed_lt_packed_iff`: the parts of two moments, read as one number, are ordered as the moments are;
- `text_lt_text_iff`: and so are their texts;
- `timestamp_tells_second`: what the time field of an event tells, and how two of them compare.
-/
import CallFeed.Proofs.Feed.Decoding
import CallFeed.Proofs.Text.Order
import CallFeed.Proofs.Time.Reading

namespace CallFeed

open CallFeed.Text CallFeed.Feed

/-! ## Dates in order -/

namespace Date

/-- one date comes before another in its year, or else in its month, or else in its day -/
def Before (d d' : Date) : Prop :=
  d.year < d'.year ∨ d.year = d'.year ∧ (d.month < d'.month ∨ d.month = d'.month ∧ d.day < d'.day)

theorem daysBeforeMonth_le {m m' : Nat} (y : Int) (h : m ≤ m') : daysBeforeMonth y m ≤ daysBeforeMonth y m' := by
  induction h with
  | refl => exact Nat.le_refl _
  | step _ ih => exact Nat.le_trans ih (Nat.le_add_right _ _)

theorem daysBeforeYear_le {y y' : Int} (h : y ≤ y') : daysBeforeYear y ≤ daysBeforeYear y' := by
  simp only [daysBeforeYear]
  omega

/-- behind its last month a year is over -/
theorem daysBeforeMonth_last (y : Int) : daysBeforeYear y + daysBeforeMonth y 13 = daysBeforeYear (y + 1) := by
  rw [daysBeforeYear_succ]
  simp only [daysBeforeMonth, monthLength]
  cases isLeapYear y with
  | true =>
    simp only [if_true]
    omega
  | false =>
    simp only [Bool.false_eq_true, if_false]
    omega

theorem Valid.le_daysBeforeMonth {d : Date} (h : d.Valid) :
    daysBeforeMonth d.year d.month + d.day ≤ daysBeforeMonth d.year (d.month + 1) :=
  Nat.add_le_add_left h.2.2.2 _

/-- **Of two dates the one that comes first is earlier.** -/
theorem toDay_lt_toDay {d d' : Date} (h : d.Valid) (h' : d'.Valid) (hbefore : d.Before d') : d.toDay < d'.toDay := by
  have hend := h.le_daysBeforeMonth
  have hday' : 1 ≤ d'.day := h'.2.2.1
  unfold toDay
  rcases hbefore with hyear | ⟨hyear, hmonth | ⟨hmonth, hday⟩⟩
  · have hlast : daysBeforeMonth d.year (d.month + 1) ≤ daysBeforeMonth d.year 13 :=
      daysBeforeMonth_le d.year (Nat.succ_le_succ h.2.1)
    have hover := daysBeforeMonth_last d.year
    have hyears := daysBeforeYear_le (Int.add_one_le_of_lt hyear)
    omega
  · have hmonths : daysBeforeMonth d.year (d.month + 1) ≤ daysBeforeMonth d.year d'.month :=
      daysBeforeMonth_le d.year hmonth
    rw [← hyear]
    omega
  · rw [← hyear, ← hmonth]
    omega

theorem before_or (d d' : Date) : d.Before d' ∨ d = d' ∨ d'.Before d := by
  unfold Before
  by_cases hyear : d.year = d'.year
  · by_cases hmonth : d.month = d'.month
    · by_cases hday : d.day = d'.day
      · exact .inr (.inl (Moment.date_eq hyear hmonth hday))
      · omega
    · omega
  · omega

/-- the date of a later day comes behind -/
theorem before_of_toDay_lt {d d' : Date} (h : d.Valid) (h' : d'.Valid) (hlt : d.toDay < d'.toDay) : d.Before d' := by
  rcases before_or d d' with hbefore | rfl | hbefore
  · exact hbefore
  · exact absurd hlt (Int.lt_irrefl _)
  · exact absurd (toDay_lt_toDay h' h hbefore) (Int.lt_asymm hlt)

end Date

/-! ## Moments in order -/

namespace Moment

/-- one moment lies in an earlier second than another; a leap second comes behind the second before it -/
def Earlier (m m' : Moment) : Prop := m.secs < m'.secs ∨ m.secs = m'.secs ∧ m.isLeap = false ∧ m'.isLeap = true

/-- the year of the moment has four digits -/
def FourDigits (m : Moment) : Prop := 0 ≤ m.date.year ∧ m.date.year ≤ 9999

/-- the parts of a moment as one number, two digits for each but the year -/
def packed (m : Moment) : Nat :=
  ((((m.date.year.natAbs * 100 + m.date.month) * 100 + m.date.day) * 100 + m.hour) * 100 + m.minute) * 100 + m.second

theorem earlier_or {m m' : Moment} : m.Earlier m' ∨ (m.secs = m'.secs ∧ m.isLeap = m'.isLeap) ∨ m'.Earlier m := by
  unfold Earlier
  rcases Int.lt_trichotomy m.secs m'.secs with hlt | heq | hgt
  · exact .inl (.inl hlt)
  · cases hm : m.isLeap <;> cases hm' : m'.isLeap <;> simp [heq]
  · exact .inr (.inr (.inl hgt))

/-- the parts behind the year fit their two digits -/
theorem parts_lt (m : Moment) : m.date.month < 100 ∧ m.date.day < 100 ∧ m.hour < 100 ∧ m.minute < 100 ∧ m.second < 100 :=
  ⟨m.month_lt, m.day_lt, Nat.lt_trans m.hour_lt (by decide), Nat.lt_trans m.minute_lt (by decide),
    Nat.lt_of_le_of_lt m.second_le (by decide)⟩

/-- only the last second of a minute has a leap second behind it -/
theorem second_eq (m : Moment) : m.second = m.secondOfDay % 60 ∧ m.isLeap = false ∨
    m.second = 60 ∧ m.secondOfDay % 60 = 59 ∧ m.isLeap = true := by
  cases h : m.isLeap with
  | true =>
    have hsecond := second_of_leap h
    have hparts : m.second = m.secondOfDay % 60 + 1 := by
      unfold second
      rw [if_pos h]
    exact .inr ⟨hsecond, by omega, rfl⟩
  | false =>
    refine .inl ⟨?_, rfl⟩
    unfold second
    rw [h]
    rfl

/-- on one day the parts of the time decide -/
theorem time_lt_of_earlier {m m' : Moment} (hday : m.secs / 86400 = m'.secs / 86400) (hearlier : m.Earlier m') :
    (m.hour * 100 + m.minute) * 100 + m.second < (m'.hour * 100 + m'.minute) * 100 + m'.second := by
  have hofDay := m.secondOfDay_eq
  have hofDay' := m'.secondOfDay_eq
  have hsecond := m.second_eq
  have hsecond' := m'.second_eq
  have hminute := m.minute_lt
  have hminute' := m'.minute_lt
  rcases hearlier with hlt | ⟨heq, hm, hm'⟩
  · have hlt : m.secondOfDay < m'.secondOfDay := by
      unfold secondOfDay
      omega
    rcases Nat.lt_trichotomy m.hour m'.hour with hhour | hhour | hhour
    · omega
    · rcases Nat.lt_trichotomy m.minute m'.minute with hmin | hmin | hmin <;> omega
    · omega
  · have hsame : m.secondOfDay = m'.secondOfDay := by
      unfold secondOfDay
      rw [heq]
    have hhour : m.hour = m'.hour := by
      unfold hour
      rw [hsame]
    have hmin : m.minute = m'.minute := by
      unfold minute
      rw [hsame]
    rw [hm] at hsecond
    rw [hm'] at hsecond'
    simp only [Bool.true_eq_false, Bool.false_eq_true, and_true, and_false, or_false, false_or] at hsecond hsecond'
    omega

/-- the parts of a date as one number -/
theorem packed_date_lt {d d' : Date} (hyear : 0 ≤ d.year) (hmonth : d.month < 100) (hday : d.day < 100)
    (hbefore : d.Before d') :
    (d.year.natAbs * 100 + d.month) * 100 + d.day < (d'.year.natAbs * 100 + d'.month) * 100 + d'.day := by
  unfold Date.Before at hbefore
  omega

theorem packed_eq (m : Moment) : m.packed = ((m.date.year.natAbs * 100 + m.date.month) * 100 + m.date.day) * 1000000 +
    ((m.hour * 100 + m.minute) * 100 + m.second) := by
  unfold packed
  generalize (m.date.year.natAbs * 100 + m.date.month) * 100 + m.date.day = d
  generalize m.hour = h
  generalize m.minute = mi
  generalize m.second = s
  omega

theorem packed_lt_of_earlier {m m' : Moment} (h : m.FourDigits) (hearlier : m.Earlier m') : m.packed < m'.packed := by
  obtain ⟨hmonth, hdate, hhour, hminute, hsecond⟩ := m.parts_lt
  have hdays : m.secs / 86400 ≤ m'.secs / 86400 := by
    unfold Earlier at hearlier
    omega
  rw [packed_eq, packed_eq]
  rcases Int.lt_or_eq_of_le hdays with hday | hday
  · have hbefore : m.date.Before m'.date := by
      apply Date.before_of_toDay_lt m.valid_date m'.valid_date
      unfold date dateOf
      rwa [Date.toDay_ofDay, Date.toDay_ofDay]
    have hlt := packed_date_lt h.1 hmonth hdate hbefore
    have htime : (m.hour * 100 + m.minute) * 100 + m.second < 1000000 := by omega
    exact Nat.lt_of_lt_of_le (Nat.add_lt_add_left htime _) (Nat.le_trans (Nat.le_of_eq (Nat.succ_mul _ _).symm)
      (Nat.le_trans (Nat.mul_le_mul_right _ hlt) (Nat.le_add_right _ _)))
  · have hsame : m.date = m'.date := congrArg Date.ofDay hday
    rw [hsame]
    exact Nat.add_lt_add_left (time_lt_of_earlier hday hearlier) _

/-- **The parts of moments are ordered as the moments are.** -/
theorem packed_lt_packed_iff {m m' : Moment} (h : m.FourDigits) (h' : m'.FourDigits) :
    m.packed < m'.packed ↔ m.Earlier m' := by
  constructor
  · intro hlt
    rcases @earlier_or m m' with hearlier | ⟨hsecs, hleap⟩ | hlater
    · exact hearlier
    · have hsame : m.packed = m'.packed := by
        simp only [packed, date, dateOf, hour, minute, second, secondOfDay, hsecs, hleap]
      exact absurd hsame (Nat.ne_of_lt hlt)
    · exact absurd (packed_lt_of_earlier h' hlater) (Nat.lt_asymm hlt)
  · exact packed_lt_of_earlier h

/-! ## Texts in order -/

/-- two texts of one length are ordered, and told apart, as two numbers are -/
structure Ordered (s t : Text) (a b : Nat) : Prop where
  length : s.length = t.length
  lt : s < t ↔ a < b
  eq : s = t ↔ a = b

/-- and so they are with one more part of two digits -/
theorem Ordered.part {s t : Text} {a b m n : Nat} (h : Ordered s t a b) (c : Char) (hm : m < 100) (hn : n < 100) :
    Ordered (s ++ c :: padded 2 m) (t ++ c :: padded 2 n) (a * 100 + m) (b * 100 + n) := by
  have hparts : (c :: padded 2 m).length = (c :: padded 2 n).length := (length_part hm c).trans (length_part hn c).symm
  have hlt : padded 2 m < padded 2 n ↔ m < n := @padded_lt_padded_iff 1 m n hm hn
  refine ⟨?_, ?_, ?_⟩
  · rw [List.length_append, List.length_append, h.length, hparts]
  · rw [append_lt_append_iff h.length, cons_lt_cons_self_iff, hlt, h.lt, h.eq]
    omega
  · constructor
    · intro heq
      obtain ⟨hfront, hpart⟩ := List.append_inj' heq hparts
      have hnumber := padded_inj (List.cons.inj hpart).2
      have hrest := h.eq.1 hfront
      omega
    · intro heq
      have hnumber : m = n := by omega
      rw [h.eq.2 (by omega), hnumber]

theorem Ordered.last {s t : Text} {a b : Nat} (h : Ordered s t a b) (c : Char) : Ordered (s ++ [c]) (t ++ [c]) a b := by
  refine ⟨?_, ?_, ?_⟩
  · rw [List.length_append, List.length_append, h.length]
  · rw [append_lt_append_iff h.length, h.lt]
    exact or_iff_left fun hlt => List.lt_irrefl _ hlt.2
  · rw [List.append_left_inj, h.eq]

/-- a year of four digits is written without a sign -/
theorem FourDigits.yearText {m : Moment} (h : m.FourDigits) :
    yearText m.date.year = padded 4 m.date.year.natAbs ∧ m.date.year.natAbs < Number.tenTo (3 + 1) := by
  obtain ⟨hfirst, hlast⟩ := h
  unfold Moment.yearText
  rw [if_neg (Int.not_lt.2 hfirst), if_pos hlast]
  refine ⟨rfl, ?_⟩
  show m.date.year.natAbs < 10000
  omega

theorem ordered_year {m m' : Moment} (h : m.FourDigits) (h' : m'.FourDigits) :
    Ordered (yearText m.date.year) (yearText m'.date.year) m.date.year.natAbs m'.date.year.natAbs := by
  obtain ⟨htext, hlt⟩ := h.yearText
  obtain ⟨htext', hlt'⟩ := h'.yearText
  rw [htext, htext']
  refine ⟨?_, padded_lt_padded_iff hlt hlt', ?_⟩
  · rw [length_padded hlt, length_padded hlt']
  · constructor
    · exact padded_inj
    · intro heq
      rw [heq]

/-- **The texts of moments with years of four digits are ordered as their parts are.** -/
theorem ordered_text {m m' : Moment} (h : m.FourDigits) (h' : m'.FourDigits) :
    Ordered m.text m'.text m.packed m'.packed := by
  obtain ⟨hmonth, hdate, hhour, hminute, hsecond⟩ := m.parts_lt
  obtain ⟨hmonth', hdate', hhour', hminute', hsecond'⟩ := m'.parts_lt
  have hyear := ordered_year h h'
  exact (((((hyear.part '-' hmonth hmonth').part '-' hdate hdate').part 'T' hhour hhour').part ':' hminute hminute').part
    ':' hsecond hsecond').last 'Z'

/-- **Octet by octet, texts are ordered as time goes.** -/
theorem text_lt_text_iff {m m' : Moment} (h : m.FourDigits) (h' : m'.FourDigits) :
    utf8 m.text < utf8 m'.text ↔ m.Earlier m' := by
  rw [utf8_lt_utf8_iff (isAscii_of_plain m.plain_text) (isAscii_of_plain m'.plain_text), (ordered_text h h').lt,
    packed_lt_packed_iff h h']

theorem length_utf8_text {m : Moment} (h : m.FourDigits) : (utf8 m.text).length = 20 := by
  obtain ⟨hmonth, hdate, hhour, hminute, hsecond⟩ := m.parts_lt
  obtain ⟨hyear, hlt⟩ := h.yearText
  rw [length_utf8_of_ascii (isAscii_of_plain m.plain_text)]
  unfold text
  simp only [List.length_append, length_part hmonth, length_part hdate, length_part hhour, length_part hminute,
    length_part hsecond, hyear, length_padded hlt, List.length_singleton]

end Moment

/-- **The time field of an event tells its second.** The field holds the text of the event's moment. That text says a
date and a time of day that exist, with a sixtieth second only in a leap second, and counted through the calendar they
come to the moment's seconds, before 1970 too; so two moments have the same text exactly when they lie in the same second
and both in its leap second or neither. From year 0 to year 9999 the text has twenty octets, and octet by octet the text
of the earlier moment comes first. -/
theorem timestamp_tells_second (m : Moment) :
    (∀ e : Event, e.Sendable → e.stamp = .moment m → between? "Timestamp".toList e.line = some m.text) ∧
    (∃ c : CalendarTime, CalendarTime.ofText? m.text = some c ∧
      (1 ≤ c.date.month ∧ c.date.month ≤ 12) ∧
      (1 ≤ c.date.day ∧ c.date.day ≤ monthLength c.date.year c.date.month) ∧
      c.hour < 24 ∧ c.minute < 60 ∧ (c.second < 60 ∨ c.second = 60 ∧ m.isLeap = true) ∧
      c.secs = m.secs ∧ c.isLeap = m.isLeap) ∧
    (∀ m' : Moment, m.text = m'.text ↔ m.secs = m'.secs ∧ m.isLeap = m'.isLeap) ∧
    (0 ≤ m.date.year ∧ m.date.year ≤ 9999 → (utf8 m.text).length = 20 ∧
      ∀ m' : Moment, 0 ≤ m'.date.year ∧ m'.date.year ≤ 9999 → (utf8 m.text < utf8 m'.text ↔
        m.secs < m'.secs ∨ m.secs = m'.secs ∧ m.isLeap = false ∧ m'.isLeap = true)) := by
  refine ⟨?_, ⟨m.calendar, m.ofText?_text, ?_, ?_, m.hour_lt, m.minute_lt, ?_, m.secs_calendar, m.isLeap_calendar⟩,
    fun m' => Moment.text_eq_iff, ?_⟩
  · intro e he hstamp
    have hfield : ("Timestamp".toList, e.stamp.text) ∈ e.fields := by simp [Event.fields]
    rw [between?_field he _ hfield, hstamp]
    rfl
  · exact ⟨m.valid_date.1, m.valid_date.2.1⟩
  · exact m.valid_date.2.2
  · cases hleap : m.isLeap with
    | true => exact .inr ⟨Moment.second_of_leap hleap, rfl⟩
    | false => exact .inl (Moment.second_of_not_leap hleap)
  · intro hyear
    refine ⟨Moment.length_utf8_text hyear, ?_⟩
    intro m' hyear'
    exact Moment.text_lt_text_iff hyear hyear'

/-- the leap second that ended 2016 and the second after it: one comes before the other, though the first says sixty
seconds and the other none -/
theorem leap_second_comes_first :
    let leap : Moment := ⟨1483228799, 1500000000, by decide +kernel⟩
    let next : Moment := ⟨1483228800, 0, by decide +kernel⟩
    let e : Event :=
      { callId := 1, callerExt := 1000, calleeExt := 9999, uriTenant := "a".toList, state := .ringing
        tenantId := "b".toList, stamp := .moment leap }
    e.Sendable ∧ between? "Timestamp".toList e.line = some "2016-12-31T23:59:60Z".toList ∧
      (∃ c, CalendarTime.ofText? leap.text = some c ∧ c.secs = 1483228799 ∧ c.isLeap = true) ∧
      (0 ≤ leap.date.year ∧ leap.date.year ≤ 9999) ∧ (utf8 leap.text).length = 20 ∧ utf8 leap.text < utf8 next.text := by
  intro leap next e
  have he : e.Sendable := ⟨by decide, by decide, by decide, by decide, by decide⟩
  have hyear : 0 ≤ leap.date.year ∧ leap.date.year ≤ 9999 := by decide +kernel
  have hyear' : 0 ≤ next.date.year ∧ next.date.year ≤ 9999 := by decide +kernel
  have htext : leap.text = "2016-12-31T23:59:60Z".toList := by decide +kernel
  obtain ⟨hfield, ⟨c, hc, -, -, -, -, -, hsecs, hleap⟩, -, horder⟩ := timestamp_tells_second leap
  refine ⟨he, htext ▸ hfield e he rfl, ⟨c, hc, hsecs, hleap.trans (by decide)⟩, hyear, (horder hyear).1, ?_⟩
  exact ((horder hyear).2 next hyear').2 (.inl (by decide))

end CallFeed
