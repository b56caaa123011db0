/-
The schedule of a flood: how many events go out at once, when so many should have gone out, and after how many a
heartbeat is due.

- `batchSize_pos`: at the least rate and above a batch is not empty;
- `heartbeatDue`: a heartbeat is due exactly at the multiples of fifteen seconds' worth of events.
-/
import CallFeed.Fault
import CallFeed.Time.Duration

namespace CallFeed

/-- below this rate a batch would be empty -/
def minRate : Nat := 10

def maxBatchSize : Nat := 1000

/-- seconds' worth of events from one heartbeat to the next -/
def heartbeatSeconds : Nat := 15

/-- the largest 64-bit count -/
def maxCount : Nat := UInt64.size - 1

/-- events to a batch: a tenth of a second's worth, capped -/
def batchSize (rate : Nat) : Nat := min (rate / 10) maxBatchSize

/-- nanoseconds after which `events` should have been sent, as far as they can be counted -/
def expectedElapsed (rate events : Nat) : Nat := min (events * Duration.nanosPerSecond / rate) maxCount

/-- a heartbeat follows once `events` have been sent -/
def heartbeatDue (rate events : Nat) : Except Fault Bool :=
  if maxCount < rate * heartbeatSeconds then .error .periodOverflow
  else .ok (events % (rate * heartbeatSeconds) == 0)

theorem heartbeatDue_of_error {rate events : Nat} {fault : Fault} (h : heartbeatDue rate events = .error fault) :
    fault = .periodOverflow ∧ maxCount < rate * heartbeatSeconds := by
  unfold heartbeatDue at h
  split at h
  · rename_i hlt
    cases h
    exact ⟨rfl, hlt⟩
  · cases h

theorem heartbeatDue_of_ok {rate events : Nat} {b : Bool} (h : heartbeatDue rate events = .ok b) :
    rate * heartbeatSeconds ≤ maxCount := by
  unfold heartbeatDue at h
  split at h
  · cases h
  · rename_i hle
    exact Nat.le_of_not_lt hle

theorem batchSize_pos {rate : Nat} (h : minRate ≤ rate) : 0 < batchSize rate := by
  simp only [minRate, batchSize, maxBatchSize] at h ⊢
  omega

theorem batchSize_le (rate : Nat) : batchSize rate ≤ maxBatchSize ∧ 10 * batchSize rate ≤ rate := by
  simp only [batchSize, maxBatchSize]
  omega

end CallFeed
