/-
Lengths of time, in whole nanoseconds, and their text.

The text has the largest unit of which there is at least one, the exact fraction of it without trailing zeros, and the
unit's name.

- `ceilMillis`: whole milliseconds, rounded up; `ceilMillis_spec`: the least that last long enough.
-/
import CallFeed.Number.Power
import CallFeed.Number.Rounding
import CallFeed.Text.Numeral

namespace CallFeed.Duration

open CallFeed.Text (decimal padded)

def nanosPerMicro : Nat := 1000

def nanosPerMilli : Nat := 1000000

def nanosPerSecond : Nat := 1000000000

/-- whole milliseconds, rounded up -/
def ceilMillis (nanos : Nat) : Nat := Number.ceilDiv nanos nanosPerMilli

/-- the digits of a fraction of `10 ^ -places`, without trailing zeros, after a point; nothing for zero -/
def fraction (places n : Nat) : Text :=
  if n = 0 then [] else '.' :: ((padded places n).reverse.dropWhile (· == '0')).reverse

/-- so many units of `10 ^ places` nanoseconds -/
def inUnits (places nanos : Nat) (unit : String) : Text :=
  decimal (nanos / Number.tenTo places) ++ fraction places (nanos % Number.tenTo places) ++ unit.toList

def text (nanos : Nat) : Text :=
  if nanosPerSecond ≤ nanos then inUnits 9 nanos "s"
  else if nanosPerMilli ≤ nanos then inUnits 6 nanos "ms"
  else if nanosPerMicro ≤ nanos then inUnits 3 nanos "µs"
  else inUnits 0 nanos "ns"

theorem ceilMillis_spec (nanos k : Nat) : ceilMillis nanos ≤ k ↔ nanos ≤ k * nanosPerMilli :=
  Number.ceilDiv_le_iff (by decide)

theorem le_ceilMillis_mul (n : Nat) : n ≤ ceilMillis n * nanosPerMilli := Number.le_ceilDiv_mul n (by decide)

theorem ceilMillis_mono {m n : Nat} (h : m ≤ n) : ceilMillis m ≤ ceilMillis n :=
  (ceilMillis_spec m _).2 (Nat.le_trans h (le_ceilMillis_mul n))

theorem ceilMillis_add_mul (n k : Nat) : ceilMillis (n + k * nanosPerMilli) = ceilMillis n + k := by
  simp only [ceilMillis, Number.ceilDiv, nanosPerMilli]
  omega

example : text 33333333 = "33.333333ms".toList ∧ text 1500000000 = "1.5s".toList ∧ text 100000000 = "100ms".toList ∧
    text 0 = "0ns".toList ∧ text 1050 = "1.05µs".toList := by decide +kernel

end CallFeed.Duration
