/-
The summary of a flood: its totals, how long it took, and the rate that comes to.

Seconds and rate are binary64 numbers, each step of the arithmetic rounded to the nearest.
-/
import CallFeed.Number.Binary64
import CallFeed.Time.Duration

namespace CallFeed

open CallFeed.Number CallFeed.Text

structure Summary where
  events : Nat
  batches : Nat
  heartbeats : Nat
  /-- nanoseconds -/
  elapsed : Nat
deriving DecidableEq, Repr

namespace Summary

/-- the seconds a flood took -/
def seconds (s : Summary) : Binary64 :=
  (Binary64.ofNat (s.elapsed / Duration.nanosPerSecond)).add
    ((Binary64.ofNat (s.elapsed % Duration.nanosPerSecond)).div (Binary64.ofNat Duration.nanosPerSecond))

/-- events per second, none in no time -/
def rate (s : Summary) : Binary64 :=
  if s.seconds.positive then (Binary64.ofNat s.events).div s.seconds else Binary64.ofNat 0

def text (s : Summary) : Text :=
  "Sent ".toList ++ decimal s.events ++ " events in ".toList ++ s.seconds.places 1 ++ "s (".toList ++
    s.rate.places 0 ++ " events/sec)".toList

example : text ⟨1000, 10, 1, 2000000000⟩ = "Sent 1000 events in 2.0s (500 events/sec)".toList := by decide +kernel

end Summary

end CallFeed
