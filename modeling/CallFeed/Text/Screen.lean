/-
Text for a screen: without the control sequences that would steer it.

A sequence starts with an escape. One that is neither a control sequence, a command nor a string ends with its first
character that is not a mark; a control sequence ends with its first letter or sign from `@` on, a command with a bell, and
an escape breaks off any of them. Other control characters are dropped too, but those that lay out a text are kept and end a
sequence that is not a string or a command.

- `onScreen_append`: text is read from left to right;
- `onScreen_plain`: text without control characters stays as it is.
-/
import CallFeed.Text.Basic

namespace CallFeed.Text

/-- what is being read -/
inductive Reading where
  | text
  /-- an escape has come -/
  | escape
  /-- marks have come after an escape -/
  | marks
  /-- a control sequence: an escape and `[` -/
  | sequence
  /-- a command to the system: an escape and `]` -/
  | command
  /-- a string for a device -/
  | string
deriving DecidableEq, Repr

namespace Reading

/-- a control character that lays out a text -/
def isLayout (c : Char) : Bool := c == '\t' || c == '\n' || c == '\x0c' || c == '\r'

/-- a character that is shown -/
def isShown (c : Char) : Bool := (decide (' ' ≤ c) && c != '\x7f') || isLayout c

/-- a mark inside a sequence -/
def isMark (c : Char) : Bool := decide (' ' ≤ c) && decide (c ≤ '/')

/-- whether an octet of a character ends a string -/
def endsString (c : Char) : Bool := (String.utf8EncodeChar c).contains 0x9C

/-- what is read after a character that an escape comes before -/
def afterEscape (c : Char) : Reading :=
  if c = '[' then sequence
  else if c = ']' then command
  else if c = 'P' ∨ c = 'X' ∨ c = '^' ∨ c = '_' then string
  else if isMark c then marks
  else if '0' ≤ c ∧ c ≤ '~' then text
  else escape

/-- what is read after a character, and whether the character is shown -/
def next (r : Reading) (c : Char) : Reading × Bool :=
  if c = '\x1b' then (escape, false)
  else if c = '\x18' ∨ c = '\x1a' then (text, false)
  else
    match r with
    | text => (text, isShown c)
    | command => (if c = '\x07' then text else command, false)
    | string => (if endsString c then text else string, false)
    | escape => if isLayout c then (text, true) else (afterEscape c, false)
    | marks => if isLayout c then (text, true) else (if '0' ≤ c ∧ c ≤ '~' then text else marks, false)
    | sequence => if isLayout c then (text, true) else (if '@' ≤ c ∧ c ≤ '~' then text else sequence, false)

/-- what is read after a text -/
def after (r : Reading) (t : Text) : Reading := t.foldl (fun r c => (r.next c).1) r

/-- the characters of a text that are shown -/
def shown : Reading → Text → Text
  | _, [] => []
  | r, c :: t => if (r.next c).2 then c :: shown (r.next c).1 t else shown (r.next c).1 t

theorem shown_append (r : Reading) (s t : Text) : r.shown (s ++ t) = r.shown s ++ (r.after s).shown t := by
  induction s generalizing r with
  | nil => rfl
  | cons c s ih =>
    rw [List.cons_append, shown, shown, ih]
    split <;> rfl

theorem next_text_of_plain {c : Char} (h : ' ' ≤ c) (hd : c ≠ '\x7f') : text.next c = (text, true) := by
  have hn : 32 ≤ c.toNat := h
  have ne_of (d : Char) (hd : d.toNat < 32) : c ≠ d := by rintro rfl; omega
  simp [next, isShown, ne_of '\x1b' (by decide), ne_of '\x18' (by decide), ne_of '\x1a' (by decide), h, hd]

end Reading

/-- a text as a screen shows it -/
def onScreen (t : Text) : Text := Reading.text.shown t

theorem onScreen_append {s : Text} (h : Reading.text.after s = .text) (t : Text) :
    onScreen (s ++ t) = onScreen s ++ onScreen t := by
  rw [onScreen, Reading.shown_append, h, onScreen, onScreen]

theorem onScreen_plain {t : Text} (h : ∀ c ∈ t, ' ' ≤ c ∧ c ≠ '\x7f') : onScreen t = t := by
  induction t with
  | nil => rfl
  | cons c t ih =>
    obtain ⟨h1, h2⟩ := h c List.mem_cons_self
    rw [onScreen, Reading.shown, Reading.next_text_of_plain h1 h2]
    exact congrArg (c :: ·) (ih fun d hd => h d (List.mem_cons_of_mem c hd))

example : onScreen "a\x1b[31mb\x07\x1b]0;t\x07c\x1b(Bd\x1b[".toList = "abcd".toList := by decide

example : onScreen "\x1b[3\ta".toList = "\ta".toList := by decide

end CallFeed.Text
