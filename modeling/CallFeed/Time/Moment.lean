/-
Moments in time, and the text of one to the second.

A moment is a number of whole seconds since 1970-01-01T00:00:00 UTC, before it or after it, and nanoseconds that count
upwards from there. Nanoseconds beyond a second are a leap second, which only the last second of a minute can have.

- `Moment.of?`: the moments that exist, those whose year lies within `firstYear..lastYear`;
- `Moment.text`: `YYYY-MM-DDThh:mm:ssZ`, the fraction dropped.
-/
import CallFeed.Time.Calendar
import CallFeed.Time.Duration
import CallFeed.Text.Numeral

namespace CallFeed

open CallFeed.Text (decimal padded)

namespace Moment

/-- the first year a moment can lie in -/
def firstYear : Int := -262143

/-- the last year a moment can lie in -/
def lastYear : Int := 262142

/-- the date of a second -/
def dateOf (secs : Int) : Date := Date.ofDay (secs / 86400)

/-- seconds and nanoseconds that make up a moment -/
def Exists (secs : Int) (nanos : Nat) : Prop :=
  (firstYear ≤ (dateOf secs).year ∧ (dateOf secs).year ≤ lastYear) ∧
    (nanos < Duration.nanosPerSecond ∨ nanos < 2 * Duration.nanosPerSecond ∧ secs % 60 = 59)

instance (secs : Int) (nanos : Nat) : Decidable (Exists secs nanos) := by unfold Exists; infer_instance

end Moment

/-- a moment in time -/
structure Moment where
  secs : Int
  nanos : Nat
  there : Moment.Exists secs nanos

namespace Moment

/-- the moment of these seconds and nanoseconds, if there is one -/
def of? (secs : Int) (nanos : Nat) : Option Moment :=
  if h : Exists secs nanos then some ⟨secs, nanos, h⟩ else none

/-- within a leap second -/
def isLeap (m : Moment) : Bool := decide (Duration.nanosPerSecond ≤ m.nanos)

def date (m : Moment) : Date := dateOf m.secs

/-- the second of its day -/
def secondOfDay (m : Moment) : Nat := (m.secs % 86400).toNat

def hour (m : Moment) : Nat := m.secondOfDay / 3600

def minute (m : Moment) : Nat := m.secondOfDay / 60 % 60

/-- the second of its minute, which is 60 in a leap second -/
def second (m : Moment) : Nat := m.secondOfDay % 60 + if m.isLeap then 1 else 0

/-- a year in at least four digits, with a sign when it is negative or needs more -/
def yearText (y : Int) : Text :=
  if y < 0 then '-' :: padded 4 y.natAbs
  else if y ≤ 9999 then padded 4 y.natAbs
  else '+' :: decimal y.natAbs

def text (m : Moment) : Text :=
  yearText m.date.year ++ '-' :: padded 2 m.date.month ++ '-' :: padded 2 m.date.day ++
    'T' :: padded 2 m.hour ++ ':' :: padded 2 m.minute ++ ':' :: padded 2 m.second ++ ['Z']

example : (of? 0 0).map text = some "1970-01-01T00:00:00Z".toList := by decide +kernel

example : (of? (-1) 999999999).map text = some "1969-12-31T23:59:59Z".toList := by decide +kernel

example : (of? 1483228799 1500000000).map text = some "2016-12-31T23:59:60Z".toList := by decide +kernel

example : (of? 0 1000000000).isNone = true := by decide +kernel

end Moment

/-- what stands in an event's time field: a moment, or the bare form of one where the moment is withheld -/
inductive Stamp where
  | moment (m : Moment)
  | withheld

namespace Stamp

def text : Stamp → Text
  | .moment m => m.text
  | .withheld => "YYYY-MM-DDThh:mm:ssZ".toList

end Stamp

end CallFeed
