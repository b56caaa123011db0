/-
Whether a line is one well-formed element.

A reader goes over the line with the tags that are open. A closing tag must close the innermost of them, an opening one
must be a name, and text may stand inside elements only. At the end no tag is open, and one element has stood by itself.
Nothing is escaped, so a line that holds an ampersand is refused, and so is one with another newline than that at its end.

- `Scan.run?`: the reader's way through a text;
- `wellFormed`: what it makes of a line.
-/
import CallFeed.Text.Basic

namespace CallFeed.Feed

/-- a reader under way: the open tags, the innermost first, and how many elements have been opened outside all others -/
structure Scan where
  opened : List Text := []
  roots : Nat := 0
deriving DecidableEq, Repr

namespace Scan

/-- a tag of this name is opened -/
def enter (s : Scan) (name : Text) : Scan := ⟨name :: s.opened, if s.opened = [] then s.roots + 1 else s.roots⟩

/-- what stands in a tag's brackets has come: a name, or a slash and the name of the innermost open tag -/
def tag? (s : Scan) (name : Text) : Option Scan :=
  if name.head? = some '/' then
    if s.opened.head? = some name.tail then some { s with opened := s.opened.tail } else none
  else if name ≠ [] && name.all Char.isAlphanum then some (s.enter name)
  else none

/-- the way through a text, if it is not refused -/
def run? (s : Scan) : Text → Option Scan
  | [] => some s
  | c :: t =>
    if c = '<' then
      if t.contains '>' then
        match s.tag? (t.takeWhile (· != '>')) with
        | none => none
        | some s => run? s (t.dropWhile (· != '>')).tail
      else none
    else if s.opened = [] || (c :: t.takeWhile (· != '<')).contains '>' then none
    else run? s (t.dropWhile (· != '<'))
termination_by t => t.length
decreasing_by
  · have hle := (List.dropWhile_suffix (· != '>') (l := t)).length_le
    simp only [List.length_cons, List.length_tail]
    omega
  · have hle := (List.dropWhile_suffix (· != '<') (l := t)).length_le
    simp only [List.length_cons]
    omega

end Scan

/-- the line is one element, properly nested, and its newline -/
def wellFormed (line : Text) : Bool :=
  line.getLast? == some '\n' && !line.dropLast.contains '\n' && !line.dropLast.contains '&' &&
    Scan.run? {} line.dropLast == some ⟨[], 1⟩

end CallFeed.Feed
