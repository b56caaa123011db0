/-
White space, of all kinds, and text without it at its ends.

- `blank_of_isWhitespace`: ASCII white space is white space;
- `trimmed_of_ends`: a text with no white space at its ends stays as it is.
-/
import CallFeed.Text.Basic
import CallFeed.Text.Ranges

namespace CallFeed.Text

/-- the code points of white space -/
def blankRanges : List (Nat × Nat) :=
  [(0x9, 0xD), (0x20, 0x20), (0x85, 0x85), (0xA0, 0xA0), (0x1680, 0x1680), (0x2000, 0x200A), (0x2028, 0x2029),
    (0x202F, 0x202F), (0x205F, 0x205F), (0x3000, 0x3000)]

/-- `c` is white space -/
def blank (c : Char) : Bool := inRanges blankRanges c

/-- a text without the white space at its ends -/
def trimmed (t : Text) : Text := ((t.dropWhile blank).reverse.dropWhile blank).reverse

theorem blank_of_isWhitespace {c : Char} (h : c.isWhitespace = true) : blank c = true := by
  simp only [Char.isWhitespace, Bool.or_eq_true, decide_eq_true_eq] at h
  rcases h with ((rfl | rfl) | rfl) | rfl <;> decide

theorem trimmed_of_ends {t : Text} (h1 : t.head?.all fun c => !blank c) (h2 : t.getLast?.all fun c => !blank c) :
    trimmed t = t := by
  have stays {s : Text} (h : s.head?.all fun c => !blank c) : s.dropWhile blank = s := by
    cases s with
    | nil => rfl
    | cons c s => rw [List.dropWhile_cons_of_neg]; simpa using h
  rw [trimmed, stays h1, stays (by rwa [List.head?_reverse]), List.reverse_reverse]

end CallFeed.Text
