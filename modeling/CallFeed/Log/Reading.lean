/-
Reading log lines of a flood back.

A line says in its text what the flood noted: how many events were out, and for a wait also how long it is going to be.
The text of a length of time is taken apart into its whole part, its fraction and its unit, and is worth so many
nanoseconds exactly.

- `Duration.ofText?`: the nanoseconds of a length of time;
- `LogLine.wait?`: the events and the nanoseconds of a line that announces a wait;
- `LogLine.beat?`: the events of a line that announces a heartbeat.
-/
import CallFeed.Feed.Fields
import CallFeed.Log
import CallFeed.Toml.Number

namespace CallFeed

open CallFeed.Feed (afterPrefix?)
open CallFeed.Toml (natOf)

namespace Text

/-- the number in front of a text, and what is left after its digits -/
def leadingNumber? (t : Text) : Option (Nat × Text) :=
  match t.takeWhile Char.isDigit with
  | [] => none
  | ds => some (natOf ds, t.dropWhile Char.isDigit)

end Text

open CallFeed.Text (leadingNumber?)

namespace Duration

/-- the power of ten that a unit is of a nanosecond -/
def places? (unit : Text) : Option Nat :=
  if unit = "s".toList then some 9
  else if unit = "ms".toList then some 6
  else if unit = "µs".toList then some 3
  else if unit = "ns".toList then some 0
  else none

/-- the digits behind a point, if there is one, and what is left after them -/
def splitFraction : Text → Text × Text
  | '.' :: t => (t.takeWhile Char.isDigit, t.dropWhile Char.isDigit)
  | t => ([], t)

/-- the nanoseconds of a text: a whole number of units, a fraction that is whole nanoseconds, and the unit -/
def ofText? (t : Text) : Option Nat := do
  let (whole, rest) ← leadingNumber? t
  let (digits, unit) := splitFraction rest
  let places ← places? unit
  if digits.length ≤ places then
    some (whole * Number.tenTo places + natOf digits * Number.tenTo (places - digits.length))
  else none

example : ofText? "33.333333ms".toList = some 33333333 ∧ ofText? "1.05µs".toList = some 1050 ∧
    ofText? "1.5ns".toList = none := by decide +kernel

end Duration

namespace LogLine

/-- the events and the nanoseconds that a wait is announced with -/
def wait? (l : LogLine) : Option (Nat × Nat) :=
  match l.level with
  | .trace => do
    let (events, rest) ← leadingNumber? (← afterPrefix? "Ahead of schedule, sleeping [events=".toList l.text)
    let rest ← afterPrefix? ", sleep=".toList rest
    let nanos ← Duration.ofText? (rest.takeWhile (· != ']'))
    if rest.dropWhile (· != ']') = [']'] then some (events, nanos) else none
  | _ => none

/-- the events that a heartbeat is announced with -/
def beat? (l : LogLine) : Option Nat :=
  match l.level with
  | .debug => do
    let (events, rest) ← leadingNumber? (← afterPrefix? "Sending heartbeat [events=".toList l.text)
    if rest = [']'] then some events else none
  | _ => none

end LogLine

end CallFeed
