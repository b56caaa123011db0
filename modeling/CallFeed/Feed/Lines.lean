/-
The lines of a feed, as octets.

A line goes up to its newline and includes it; what is left after the last newline is a line too, though not a complete
one.

- `lines`: the lines in order; `heartbeatPlaces`: which of them are complete heartbeats, counted from nought.
-/
import CallFeed.Event

namespace CallFeed.Feed

def newline : UInt8 := 10

/-- the lines of octets, each with its newline -/
def lines (s : Octets) : List Octets := s.splitBy fun b _ => b != newline

/-- the line has its newline -/
def isComplete (line : Octets) : Bool := line.getLast? == some newline

/-- the places of the complete heartbeat lines -/
def heartbeatPlaces (s : Octets) : List Nat :=
  let beat := utf8 heartbeat
  ((lines s).zipIdx.filter fun l => l.1 == beat).map Prod.snd

example : lines [65, 10, 10, 66] = [[65, 10], [10], [66]] := by decide

end CallFeed.Feed
