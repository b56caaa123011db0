/-
The Gregorian calendar, carried backwards and forwards without end. Days are counted from 1970-01-01.

`Date.ofDay` finds the date of a day with years that start in March, so that the leap day is the last of its year and
four hundred years are one even cycle. `Date.toDay` counts the other way, from the lengths of years and months.

- `Date.ofDay_valid`: the month exists, and the day exists in it;
- `Date.toDay_ofDay`: counting the days up to the date found gives the day back.
-/

namespace CallFeed

/-- a year has a 29th of February -/
def isLeapYear (y : Int) : Bool := y % 4 == 0 && (y % 100 != 0 || y % 400 == 0)

/-- the days of a month -/
def monthLength (y : Int) : Nat → Nat
  | 1 => 31
  | 2 => if isLeapYear y then 29 else 28
  | 3 => 31
  | 4 => 30
  | 5 => 31
  | 6 => 30
  | 7 => 31
  | 8 => 31
  | 9 => 30
  | 10 => 31
  | 11 => 30
  | 12 => 31
  | _ => 0

structure Date where
  year : Int
  month : Nat
  day : Nat
deriving DecidableEq, Repr

namespace Date

/-- the month exists, and the day exists in it -/
def Valid (d : Date) : Prop := 1 ≤ d.month ∧ d.month ≤ 12 ∧ 1 ≤ d.day ∧ d.day ≤ monthLength d.year d.month

/-- the year that starts in the March on or before a day, days counted from the 1st of March of year 0, and the days gone
by in it: cycles of four hundred years, centuries, fours of years and years, where the last century of a cycle and the
last year of a four take the day left over -/
def marchYear (n : Int) : Int × Nat :=
  let inCycle := (n % 146097).toNat
  let century := min (inCycle / 36524) 3
  let inCentury := inCycle - century * 36524
  let four := inCentury / 1461
  let inFour := inCentury % 1461
  let year := min (inFour / 365) 3
  (n / 146097 * 400 + (century * 100 + four * 4 + year : Nat), inFour - year * 365)

/-- the date of a day -/
def ofDay (n : Int) : Date :=
  let (year, inYear) := marchYear (n + 719468)
  let month := (5 * inYear + 2) / 153
  let day := inYear - (153 * month + 2) / 5 + 1
  if month < 10 then ⟨year, month + 3, day⟩ else ⟨year + 1, month - 9, day⟩

/-- the days from the first of year 1 to the first of a year -/
def daysBeforeYear (y : Int) : Int := 365 * (y - 1) + (y - 1) / 4 - (y - 1) / 100 + (y - 1) / 400

/-- the days of a year before a month -/
def daysBeforeMonth (y : Int) : Nat → Nat
  | 0 => 0
  | m + 1 => daysBeforeMonth y m + monthLength y m

/-- the day of a date -/
def toDay (d : Date) : Int := daysBeforeYear d.year + daysBeforeMonth d.year d.month + d.day - 1 - 719162

theorem daysBeforeYear_succ (y : Int) :
    daysBeforeYear (y + 1) = daysBeforeYear y + 365 + if isLeapYear y then 1 else 0 := by
  have h4 : y / 4 = (y - 1) / 4 + if y % 4 = 0 then 1 else 0 := by split <;> omega
  have h100 : y / 100 = (y - 1) / 100 + if y % 100 = 0 then 1 else 0 := by split <;> omega
  have h400 : y / 400 = (y - 1) / 400 + if y % 400 = 0 then 1 else 0 := by split <;> omega
  simp only [daysBeforeYear, isLeapYear, Int.add_sub_cancel, h4, h100, h400, Bool.and_eq_true, Bool.or_eq_true,
    beq_iff_eq, bne_iff_ne]
  by_cases c4 : y % 4 = 0 <;> by_cases c100 : y % 100 = 0 <;> by_cases c400 : y % 400 = 0 <;>
    simp only [c4, c100, c400, if_true, if_false, true_and, false_and, ne_eq, not_true, not_false_eq_true, or_true,
      or_false, or_self] <;> omega

theorem marchYear_spec (n : Int) :
    daysBeforeYear ((marchYear n).1 + 1) + (marchYear n).2 = n ∧ (marchYear n).2 ≤ 365 ∧
      ((marchYear n).2 = 365 → isLeapYear ((marchYear n).1 + 1) = true) := by
  simp only [marchYear, daysBeforeYear, isLeapYear, Int.add_sub_cancel, Bool.and_eq_true, Bool.or_eq_true, beq_iff_eq,
    bne_iff_ne]
  have hr0 : 0 ≤ n % 146097 := Int.emod_nonneg n (by decide)
  have hr1 : n % 146097 < 146097 := Int.emod_lt_of_pos n (by decide)
  have hn : 146097 * (n / 146097) + n % 146097 = n := Int.mul_ediv_add_emod n 146097
  generalize n / 146097 = c at *
  generalize hr : (n % 146097).toNat = r
  have hrn : (r : Int) = n % 146097 := by omega
  generalize hC : min (r / 36524) 3 = C
  have hC1 : C ≤ 3 ∧ r - C * 36524 ≤ 36524 ∧ C * 36524 ≤ r ∧ (r - C * 36524 = 36524 → C = 3) := by omega
  generalize ht : r - C * 36524 = t at *
  generalize hq : t / 1461 = q at *
  generalize hs : t % 1461 = s at *
  have hq1 : q ≤ 24 ∧ s < 1461 ∧ t = 1461 * q + s ∧ (s = 1460 → q < 24 ∨ C = 3) := by omega
  generalize hy : min (s / 365) 3 = y at *
  have hy1 : y ≤ 3 ∧ s - y * 365 ≤ 365 ∧ y * 365 ≤ s ∧ (s - y * 365 = 365 → y = 3) := by omega
  have e4 : (c * 400 + ((C * 100 + q * 4 + y : Nat) : Int)) / 4 = c * 100 + C * 25 + q := by omega
  have e100 : (c * 400 + ((C * 100 + q * 4 + y : Nat) : Int)) / 100 = c * 4 + C := by omega
  have e400 : (c * 400 + ((C * 100 + q * 4 + y : Nat) : Int)) / 400 = c := by omega
  rw [e4, e100, e400]
  refine ⟨by omega, by omega, fun h => ⟨by omega, ?_⟩⟩
  have hy3 := hy1.2.2.2 h
  rcases hq1.2.2.2 (by omega) with h24 | h3
  · left; omega
  · by_cases h24 : q < 24
    · left; omega
    · right; omega

theorem month_cases {d : Nat} (h : d ≤ 365) : (5 * d + 2) / 153 ∈ List.range 12 := by
  rw [List.mem_range]; omega

theorem toDay_ofDay (n : Int) : (ofDay n).toDay = n := by
  obtain ⟨h1, h2, h3⟩ := marchYear_spec (n + 719468)
  have hy := daysBeforeYear_succ (marchYear (n + 719468)).1
  simp only [ofDay]
  generalize (marchYear (n + 719468)).1 = y at *
  generalize (marchYear (n + 719468)).2 = d at *
  have hm := month_cases h2
  simp only [List.range_succ, List.range_zero, List.nil_append, List.cons_append, List.mem_cons, List.not_mem_nil,
    or_false] at hm
  rcases hm with h | h | h | h | h | h | h | h | h | h | h | h <;>
    cases hl : isLeapYear y <;>
    simp only [h, hl, toDay, daysBeforeMonth, monthLength, Nat.reduceLT, Nat.reduceAdd, Nat.reduceSub, if_true, if_false,
      Bool.false_eq_true, Int.add_zero] at hy ⊢ <;>
    omega

theorem ofDay_valid (n : Int) : (ofDay n).Valid := by
  obtain ⟨_, h2, h3⟩ := marchYear_spec (n + 719468)
  simp only [ofDay]
  generalize (marchYear (n + 719468)).1 = y at *
  generalize (marchYear (n + 719468)).2 = d at *
  have hm := month_cases h2
  simp only [List.range_succ, List.range_zero, List.nil_append, List.cons_append, List.mem_cons, List.not_mem_nil,
    or_false] at hm
  rcases hm with h | h | h | h | h | h | h | h | h | h | h | h <;>
    cases hl : isLeapYear (y + 1) <;> simp [h, hl, Valid, monthLength] at h3 ⊢ <;> omega

end Date

end CallFeed
