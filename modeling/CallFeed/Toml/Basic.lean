/-
What TOML text is made of: blanks, comments, newlines.

- `plain`: the characters that may stand in comments and texts as they are;
- `skipBlank`, `skipVoid`: what is left after blanks, and after blanks, newlines and comments.
-/
import CallFeed.Text.Basic

namespace CallFeed.Toml

/-- a space or a tab -/
def isBlank (c : Char) : Bool := c == ' ' || c == '\t'

/-- a character that may stand as it is: no control character but the tab -/
def plain (c : Char) : Bool := c == '\t' || (decide (' ' ≤ c) && c != '\x7f')

/-- what is left after blanks -/
def skipBlank (t : Text) : Text := t.dropWhile isBlank

/-- what is left after a newline, if there is one -/
def newline? : Text → Option Text
  | '\n' :: t => some t
  | '\r' :: '\n' :: t => some t
  | _ => none

/-- what is left after a comment, if there is one -/
def skipComment : Text → Text
  | '#' :: t => t.dropWhile plain
  | t => t

theorem length_dropWhile_le (p : Char → Bool) (t : Text) : (t.dropWhile p).length ≤ t.length :=
  (List.dropWhile_suffix p).length_le

/-- what is left after blanks and newlines -/
def skipLines : Text → Text
  | ' ' :: t => skipLines t
  | '\t' :: t => skipLines t
  | '\n' :: t => skipLines t
  | '\r' :: '\n' :: t => skipLines t
  | t => t

/-- what is left after blanks, newlines and comments -/
def skipVoid : Text → Text
  | ' ' :: t => skipVoid t
  | '\t' :: t => skipVoid t
  | '\n' :: t => skipVoid t
  | '\r' :: '\n' :: t => skipVoid t
  | '#' :: t => skipVoid (t.dropWhile plain)
  | t => t
termination_by t => t.length
decreasing_by
  all_goals
    have := length_dropWhile_le plain t
    simp only [List.length_cons]
    omega

/-- what is left after the rest of a line that holds nothing more; at the end of the text there is no newline -/
def endOfLine? (t : Text) : Option Text :=
  match skipComment (skipBlank t) with
  | [] => some []
  | t => newline? t

end CallFeed.Toml
