/-
Reading the text of a moment.

The text is taken apart as it is laid out, and what it says is counted through the calendar: the days up to the date from
the lengths of years and months, then the seconds of the day. A sixtieth second of a minute is a leap second, which does
not count.

- `CalendarTime.ofText?`: the date and the time of day that a text says;
- `CalendarTime.secs`: the seconds since 1970-01-01T00:00:00 that this comes to.
-/
import CallFeed.Time.Moment
import CallFeed.Toml.Date
import CallFeed.Toml.Number

namespace CallFeed

open CallFeed.Text (readDigits)
open CallFeed.Toml (fixed? after? splitSign isMinus)

/-- a date and a time of day, to the second -/
structure CalendarTime where
  date : Date
  hour : Nat
  minute : Nat
  second : Nat
deriving DecidableEq, Repr

namespace CalendarTime

/-- the number of the digits in front, if it is that of a year, and what is left after them -/
def yearDigits? (t : Text) : Option (Nat × Text) :=
  match t.takeWhile Char.isDigit with
  | [] => none
  | ds =>
    match readDigits 10 Moment.firstYear.natAbs .tooLarge 0 ds with
    | .ok n => some (n, t.dropWhile Char.isDigit)
    | .error _ => none

/-- a year, with a sign or without -/
def year? (t : Text) : Option (Int × Text) :=
  (yearDigits? (splitSign t).2).map fun r => (if isMinus (splitSign t).1 then -Int.ofNat r.1 else Int.ofNat r.1, r.2)

/-- the date and the time that a text says -/
def ofText? (t : Text) : Option CalendarTime := do
  let (year, t) ← year? t
  let (month, t) ← fixed? 2 (← after? '-' t)
  let (day, t) ← fixed? 2 (← after? '-' t)
  let (hour, t) ← fixed? 2 (← after? 'T' t)
  let (minute, t) ← fixed? 2 (← after? ':' t)
  let (second, t) ← fixed? 2 (← after? ':' t)
  if t = ['Z'] then some ⟨⟨year, month, day⟩, hour, minute, second⟩ else none

/-- the time lies in a leap second -/
def isLeap (c : CalendarTime) : Bool := c.second == 60

/-- the seconds since 1970-01-01T00:00:00 -/
def secs (c : CalendarTime) : Int := c.date.toDay * 86400 + (c.hour * 3600 + c.minute * 60 + min c.second 59 : Nat)

example : (ofText? "1969-12-31T23:59:60Z".toList).map secs = some (-1) := by decide +kernel

end CalendarTime

end CallFeed
