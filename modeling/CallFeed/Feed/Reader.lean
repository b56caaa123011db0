/-
Reading a feed piece by piece.

What arrives is kept until the newline of its line has come, and then the line is taken and counted. So a reader between
two reads has counted the lines that are complete and keeps the start of the next. When the feed ends, what it keeps is a
last line, unless that is nothing or only a carriage return.

- `Reader.read`: the next octets have arrived;
- `Tally.ofPieces`: what a reader comes to that gets its feed in pieces.
-/
import CallFeed.Feed.Consumer

namespace CallFeed.Feed

/-- a reader between two reads -/
structure Reader where
  tally : Tally := {}
  /-- what has arrived and is not counted -/
  kept : Octets := []
deriving DecidableEq, Repr

namespace Reader

/-- count the lines whose newline has come, one after another -/
def settle (n : Tally) (kept : Octets) : Except ReadFault Reader :=
  if _h : kept.contains newline then
    match n.line (dropReturn (kept.takeWhile (· != newline))) with
    | .error e => .error e
    | .ok n => settle n (kept.dropWhile (· != newline)).tail
  else .ok ⟨n, kept⟩
termination_by kept.length
decreasing_by
  have hne : kept ≠ [] := by
    intro he
    rw [he] at _h
    cases _h
  have hpos := List.length_pos_iff.2 hne
  have hle := (List.dropWhile_suffix (· != newline) (l := kept)).length_le
  rw [List.length_tail]
  omega

def read (r : Reader) (piece : Octets) : Except ReadFault Reader := settle r.tally (r.kept ++ piece)

/-- the feed has ended -/
def close (r : Reader) : Except ReadFault Tally :=
  if dropReturn r.kept = [] then .ok r.tally else r.tally.line (dropReturn r.kept)

/-- read pieces until one has a line that cannot be counted, or the feed ends -/
def reads : Reader → List Octets → Except ReadFault Tally
  | r, [] => r.close
  | r, piece :: pieces =>
    match r.read piece with
    | .error e => .error e
    | .ok r => r.reads pieces

end Reader

def Tally.ofPieces (pieces : List Octets) : Except ReadFault Tally := Reader.reads {} pieces

end CallFeed.Feed
