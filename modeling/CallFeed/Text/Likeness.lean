/-
How alike two texts are, by the characters they share.

A character of the one text is paired with the first equal character of the other that is still free and stands no farther
from its own place than half the longer text reaches. The likeness is the mean of three shares: that of the pairs in the
one text, that of the pairs in the other, and that of the pairs which do not cross among all pairs.

- `likeness`: the sum of the three shares;
- `mostAlike?`: the name most like a text, if any is like enough.
-/
import CallFeed.Text.Basic

namespace CallFeed.Text

/-- a text whose characters may be taken, each with whether it is -/
abbrev Board := List (Char × Bool)

/-- the board after the first free character equal to `c`, at one of the places `low..high`, is taken; the board starts at
`place` -/
def Board.take? (c : Char) (low high : Nat) : (place : Nat) → Board → Option Board
  | _, [] => none
  | place, (d, taken) :: rest =>
    if low ≤ place && place ≤ high && d == c && !taken then some ((d, true) :: rest)
    else (take? c low high (place + 1) rest).map ((d, taken) :: ·)

/-- the characters of a text from `place` on that find a partner within reach, and the board on which the partners are
taken -/
def paired (reach : Nat) : (place : Nat) → Text → Board → Text × Board
  | _, [], b => ([], b)
  | place, c :: t, b =>
    match Board.take? c (place - reach) (place + reach) 0 b with
    | none => paired reach (place + 1) t b
    | some b => (c :: (paired reach (place + 1) t b).1, (paired reach (place + 1) t b).2)

/-- the characters of a board that are taken -/
def Board.taken (b : Board) : Text := (b.filter Prod.snd).map Prod.fst

/-- a fraction of naturals -/
structure Share where
  part : Nat
  whole : Nat
deriving DecidableEq, Repr

/-- whether a share is at least as large as another -/
def Share.atLeast (a b : Share) : Bool := decide (b.part * a.whole ≤ a.part * b.whole)

/-- the sum of the three shares -/
def likeness (s t : Text) : Share :=
  let (found, board) := paired (max s.length t.length / 2 - 1) 0 s (t.map (·, false))
  let pairs := found.length
  let crossed := ((found.zip board.taken).filter fun p => p.1 ≠ p.2).length / 2
  if pairs = 0 then ⟨0, 1⟩
  else ⟨pairs * pairs * (s.length + t.length) + (pairs - crossed) * s.length * t.length, s.length * t.length * pairs⟩

/-- the least sum of shares that counts: three times seven tenths -/
def likenessNeeded : Share := ⟨21, 10⟩

/-- of the names that are like enough to a text the one most like it, and of equally like ones the last -/
def mostAlike? (t : Text) (names : List Text) : Option Text :=
  (names.filter fun n => (likeness t n).atLeast likenessNeeded).foldl
    (fun best n => if best.any fun b => !(likeness t n).atLeast (likeness t b) then best else some n) none

example : likeness "ehlp".toList "help".toList = ⟨4 * 4 * 8 + 3 * 4 * 4, 4 * 4 * 4⟩ := by decide

example : mostAlike? "verbose".toList ["help".toList, "version".toList] = some "version".toList := by decide

example : mostAlike? "host".toList ["help".toList, "version".toList] = none := by decide

end CallFeed.Text
