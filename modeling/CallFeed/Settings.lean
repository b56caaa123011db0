/-
The settings a server is started with.

- `Settings.overridden`: what the command line gives replaces what it names and nothing else;
- `Settings.validated`: the settings a server can be started with, and otherwise the first thing wrong with them, in the
  order rate, backlog, host.
-/
import CallFeed.Address
import CallFeed.Flood.Schedule
import CallFeed.Text.Quoted
import CallFeed.Time.Duration

namespace CallFeed

open CallFeed.Text

structure Settings where
  logLevel : Text := "info".toList
  host : Text := "0.0.0.0".toList
  port : UInt16 := 9000
  backlog : UInt32 := 5
  rate : UInt64 := 10000
  durationSecs : UInt64 := 60
  consistentTenants : Bool := false
deriving DecidableEq, Repr

/-- the settings a command line may give -/
structure Overrides where
  port : Option UInt16 := none
  rate : Option UInt64 := none
  durationSecs : Option UInt64 := none
deriving DecidableEq, Repr

/-- why a server cannot be started with its settings -/
inductive SettingsFault where
  | rateTooLow (rate : Nat)
  | noBacklog
  | badHost (host : Text)
deriving DecidableEq, Repr

/-- what is wrong, and then what lies behind it -/
def SettingsFault.causes : SettingsFault → List Text
  | rateTooLow rate =>
    ["rate must be at least ".toList ++ decimal minRate ++ " events/sec, got ".toList ++ decimal rate]
  | noBacklog => ["backlog must be greater than zero".toList]
  | badHost host => ["Invalid listen host ".toList ++ quoted host, "invalid IP address syntax".toList]

def SettingsFault.message (f : SettingsFault) : Text := joined ": ".toList f.causes

namespace Settings

def overridden (s : Settings) (o : Overrides) : Settings :=
  { s with
    port := o.port.getD s.port
    rate := o.rate.getD s.rate
    durationSecs := o.durationSecs.getD s.durationSecs }

/-- where to listen -/
def listenAddress (s : Settings) : Except SettingsFault SocketAddress :=
  match IpAddress.ofText? s.host with
  | some ip => .ok ⟨ip, s.port⟩
  | none => .error (.badHost s.host)

def validated (s : Settings) : Except SettingsFault Settings :=
  if s.rate.toNat < minRate then .error (.rateTooLow s.rate.toNat)
  else if s.backlog = 0 then .error .noBacklog
  else s.listenAddress.map fun _ => s

/-- settings are not changed by being checked, and their rate is not too low -/
theorem eq_of_validated {s t : Settings} (h : s.validated = .ok t) : t = s ∧ minRate ≤ t.rate.toNat := by
  simp only [validated] at h
  split at h
  · cases h
  · rename_i hrate
    split at h
    · cases h
    · cases ha : s.listenAddress with
      | error e => rw [ha] at h; cases h
      | ok a => rw [ha] at h; cases h; exact ⟨rfl, Nat.le_of_not_lt hrate⟩

theorem minRate_le_of_validated {s t : Settings} (h : s.validated = .ok t) : minRate ≤ t.rate.toNat :=
  (eq_of_validated h).2

/-- how long a flood lasts, in nanoseconds -/
def duration (s : Settings) : Nat := s.durationSecs.toNat * Duration.nanosPerSecond

end Settings

end CallFeed
