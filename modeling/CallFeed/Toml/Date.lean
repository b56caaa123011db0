/-
TOML dates and times, and how they are written as text: a date and a time with `T` between them, a fraction without its
trailing zeros.

- `date?`, `time?`, `offset?`: the parts, each with what is left after it;
- `moment?`: the text of a token that is a date, a time, or both.
-/
import CallFeed.Number.Power
import CallFeed.Text.Numeral
import CallFeed.Time.Calendar

namespace CallFeed.Toml

open CallFeed.Text

/-- the number of so many decimal digits -/
def fixed? (width : Nat) (t : Text) : Option (Nat × Text) :=
  let ds := t.take width
  if ds.length = width ∧ ds.all Char.isDigit then
    match readDigits 10 (Number.tenTo width) .tooLarge 0 ds with
    | .ok n => some (n, t.drop width)
    | .error _ => none
  else none

/-- what is left after a character -/
def after? (c : Char) : Text → Option Text
  | d :: t => if d = c then some t else none
  | [] => none

/-- a date that exists, as text -/
def date? (t : Text) : Option (Text × Text) := do
  let (year, t) ← fixed? 4 t
  let (month, t) ← fixed? 2 (← after? '-' t)
  let (day, t) ← fixed? 2 (← after? '-' t)
  if 1 ≤ month ∧ month ≤ 12 ∧ 1 ≤ day ∧ day ≤ monthLength year month then
    some (padded 4 year ++ '-' :: padded 2 month ++ '-' :: padded 2 day, t)
  else none

/-- a fraction of a second as text: nine digits are kept, and trailing zeros are not -/
def secondFraction (ds : Text) : Text :=
  match ((ds.take 9).reverse.dropWhile (· == '0')).reverse with
  | [] => ".0".toList
  | kept => '.' :: kept

/-- the seconds of a time and their fraction, as text -/
def seconds? (t : Text) : Option (Text × Text) := do
  let (second, t) ← fixed? 2 t
  if 60 < second then none
  else
    match t with
    | '.' :: rest =>
      let ds := rest.takeWhile Char.isDigit
      if ds = [] then none
      else some (':' :: padded 2 second ++ secondFraction ds, rest.dropWhile Char.isDigit)
    | t => some (':' :: padded 2 second, t)

/-- a time of day, as text; its seconds may be left out -/
def time? (t : Text) : Option (Text × Text) := do
  let (hour, t) ← fixed? 2 t
  let (minute, t) ← fixed? 2 (← after? ':' t)
  if 23 < hour ∨ 59 < minute then none
  else
    let text := padded 2 hour ++ ':' :: padded 2 minute
    match t with
    | ':' :: rest => do
      let (seconds, rest) ← seconds? rest
      some (text ++ seconds, rest)
    | t => some (text, t)

/-- an offset from universal time, as text; no offset goes back by nothing -/
def offset? : Text → Option (Text × Text)
  | [] => some ([], [])
  | ['Z'] => some (['Z'], [])
  | ['z'] => some (['Z'], [])
  | c :: t => do
    if c = '+' ∨ c = '-' then
      let (hours, t) ← fixed? 2 t
      let (minutes, t) ← fixed? 2 (← after? ':' t)
      if 23 < hours ∨ 59 < minutes then none
      else
        let sign := if c = '-' ∧ (hours ≠ 0 ∨ minutes ≠ 0) then '-' else '+'
        some (sign :: padded 2 hours ++ ':' :: padded 2 minutes, t)
    else none

/-- whether a character may stand between a date and a time -/
def isDelimiter (c : Char) : Bool := c == 'T' || c == 't' || c == ' '

/-- the text of a date, a time or both; only both have an offset -/
def moment? (t : Text) : Option Text :=
  match date? t with
  | some (date, []) => some date
  | some (date, c :: rest) => do
    if isDelimiter c then
      let (time, rest) ← time? rest
      let (offset, rest) ← offset? rest
      if rest = [] then some (date ++ 'T' :: time ++ offset) else none
    else none
  | none =>
    match time? t with
    | some (time, []) => some time
    | _ => none

end CallFeed.Toml
