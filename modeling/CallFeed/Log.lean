/-
Log lines: a level and a text.

- `Note.line`: what a flood notes, as it is logged.
-/
import CallFeed.Flood.Run

namespace CallFeed

open CallFeed.Text (decimal)

/-- how much a log line matters, the most first -/
inductive Level where
  | error
  | warn
  | info
  | debug
  | trace
deriving DecidableEq, Repr

namespace Level

def name : Level → String
  | error => "ERROR"
  | warn => "WARN"
  | info => "INFO"
  | debug => "DEBUG"
  | trace => "TRACE"

/-- one is the most important level, five the least -/
def rank : Level → Nat
  | error => 1
  | warn => 2
  | info => 3
  | debug => 4
  | trace => 5

end Level

structure LogLine where
  level : Level
  text : Text
deriving DecidableEq, Repr

def Note.line : Note → LogLine
  | .ahead events sleep =>
    ⟨.trace, "Ahead of schedule, sleeping [events=".toList ++ decimal events ++ ", sleep=".toList ++
      Duration.text sleep ++ [']']⟩
  | .heartbeat events => ⟨.debug, "Sending heartbeat [events=".toList ++ decimal events ++ [']']⟩

end CallFeed
