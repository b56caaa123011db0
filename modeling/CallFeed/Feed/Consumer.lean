/-
Reading a feed to its end.

A reader takes the feed line by line, each without its newline and without one carriage return before it; a last line
need not have a newline. One reader counts the lines of each kind and stops at the first that is of neither; others only
count the lines they can read, and some of them leave early.

- `received`: the lines as they are taken;
- `Tally.ofFeed`: what the counting reader comes to;
- `linesRead`: how many lines a reader takes that does not look at them.
-/
import CallFeed.Feed.Lines
import CallFeed.Text.Utf8

namespace CallFeed.Feed

open CallFeed.Text

/-- a line without one carriage return at its end -/
def dropReturn (line : Octets) : Octets := if line.getLast? = some 13 then line.dropLast else line

/-- a line as it is taken; an incomplete one that is nothing but a carriage return is none -/
def taken? (line : Octets) : Option Octets :=
  if isComplete line then some (dropReturn line.dropLast)
  else if dropReturn line = [] then none
  else some (dropReturn line)

/-- the lines of a feed as they are taken -/
def received (s : Octets) : List Octets := (lines s).filterMap taken?

/-- what a reader cannot go on from -/
inductive ReadFault where
  | notText
  | unexpected (line : Text)
deriving DecidableEq, Repr

def ReadFault.message : ReadFault → Text
  | notText => "Unable to decode input as UTF8".toList
  | unexpected line => "Unexpected line: ".toList ++ line

/-- what a reader has counted -/
structure Tally where
  events : Nat := 0
  heartbeats : Nat := 0
  /-- the octets of all lines, with one more for the newline of each -/
  octets : Nat := 0
deriving DecidableEq, Repr

namespace Tally

/-- count one line -/
def line (n : Tally) (l : Octets) : Except ReadFault Tally :=
  match decode? l with
  | none => .error .notText
  | some t =>
    let n := { n with octets := n.octets + l.length + 1 }
    if "<Heartbeat>".toList.isPrefixOf t then .ok { n with heartbeats := n.heartbeats + 1 }
    else if "<CallStateEvent>".toList.isPrefixOf t then .ok { n with events := n.events + 1 }
    else .error (.unexpected t)

/-- count lines until one cannot be counted -/
def more : Tally → List Octets → Except ReadFault Tally
  | n, [] => .ok n
  | n, l :: ls =>
    match n.line l with
    | .error e => .error e
    | .ok n => n.more ls

def ofFeed (s : Octets) : Except ReadFault Tally := more {} (received s)

def text (n : Tally) : Text :=
  "Received ".toList ++ decimal n.events ++ " events and ".toList ++ decimal n.heartbeats ++ " heartbeats (".toList ++
    decimal n.octets ++ " bytes)".toList

end Tally

/-- how many readers read at once -/
def readerCount : Nat := 10

/-- how many lines a reader takes that may leave after some -/
def linesRead (leaveAfter : Option Nat) (s : Octets) : Nat :=
  let readable := ((received s).takeWhile fun l => (decode? l).isSome).length
  (leaveAfter.map (min readable)).getD readable

/-- what readers say at their end, in the order of the words -/
def readersText (counts : List Nat) : List Text :=
  ("All clients done, ".toList ++ decimal (counts.foldl (· + ·) 0) ++ " lines in total".toList) ::
    counts.zipIdx.map fun c =>
      "Client ".toList ++ decimal c.2 ++ " read ".toList ++ decimal c.1 ++ " lines".toList

end CallFeed.Feed
