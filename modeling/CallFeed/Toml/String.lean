/-
TOML texts, in their four forms: between double quotes with escapes, between single quotes as they stand, and either of
these over several lines between triple quotes.

- `text?`: the text that starts here, and what is left after it;
- `escape?`: the character of an escape, and what is left.
-/
import CallFeed.Toml.Basic
import CallFeed.Number.Power
import CallFeed.Text.Numeral

namespace CallFeed.Toml

open CallFeed.Text

/-- the character of a number, unless it is none -/
def char? (n : Nat) : Option Char := if h : n.isValidChar then some (Char.ofNatAux n h) else none

/-- the character whose number is given in so many hexadecimal digits -/
def numbered? (digits : Nat) (t : Text) : Option (Char × Text) :=
  let ds := t.take digits
  if ds.length = digits then
    match readDigits 16 (Number.twoTo (4 * digits)) .tooLarge 0 ds with
    | .ok n => (char? n).map fun c => (c, t.drop digits)
    | .error _ => none
  else none

/-- the character that one letter escapes -/
def escaped? : Char → Option Char
  | 'b' => some '\x08'
  | 't' => some '\t'
  | 'n' => some '\n'
  | 'f' => some '\x0c'
  | 'r' => some '\r'
  | 'e' => some '\x1b'
  | '"' => some '"'
  | '\\' => some '\\'
  | _ => none

/-- the character of an escape, after its backslash -/
def escape? : Text → Option (Char × Text)
  | 'x' :: t => numbered? 2 t
  | 'u' :: t => numbered? 4 t
  | 'U' :: t => numbered? 8 t
  | c :: t => (escaped? c).map fun d => (d, t)
  | [] => none

theorem numbered?_length {digits : Nat} {t rest : Text} {c : Char} (h : numbered? digits t = some (c, rest)) :
    rest.length ≤ t.length := by
  simp only [numbered?] at h
  split at h
  · split at h
    · obtain ⟨a, _, ha⟩ := Option.map_eq_some_iff.1 h
      have : rest = t.drop digits := (congrArg Prod.snd ha).symm
      rw [this, List.length_drop]
      omega
    · cases h
  · cases h

theorem escape?_length {t rest : Text} {c : Char} (h : escape? t = some (c, rest)) : rest.length ≤ t.length := by
  unfold escape? at h
  split at h
  · exact Nat.le_succ_of_le (numbered?_length h)
  · exact Nat.le_succ_of_le (numbered?_length h)
  · exact Nat.le_succ_of_le (numbered?_length h)
  · obtain ⟨d, _, hd⟩ := Option.map_eq_some_iff.1 h
    cases hd
    simp
  · cases h

/-- put a character in front of a text that was read -/
def consRead (c : Char) (r : Text × Text) : Text × Text := (c :: r.1, r.2)

/-- a text up to its closing double quote -/
def basicBody : Text → Option (Text × Text)
  | [] => none
  | '"' :: t => some ([], t)
  | '\\' :: t =>
    match _h : escape? t with
    | none => none
    | some (c, rest) => (basicBody rest).map (consRead c)
  | c :: t => if plain c then (basicBody t).map (consRead c) else none
termination_by t => t.length
decreasing_by
  · have := escape?_length _h
    simp only [List.length_cons]
    omega
  · simp

/-- a text up to its closing single quote -/
def literalBody : Text → Option (Text × Text)
  | [] => none
  | '\'' :: t => some ([], t)
  | c :: t => if plain c then (literalBody t).map (consRead c) else none

/-- how many quotes stand here -/
def quotes (quote : Char) (t : Text) : Nat := (t.takeWhile (· == quote)).length

/-- the end of a text over several lines, where three quotes or more stand: at most two of them belong to the text -/
def closing? (quote : Char) (t : Text) : Option (Text × Text) :=
  let run := quotes quote t
  if run ≤ 5 then some (List.replicate (run - 3) quote, t.drop run) else none

/-- the end of a line that is continued, after its backslash: what is left after all blanks and newlines -/
def continued? (t : Text) : Option Text := (newline? (skipBlank t)).map skipLines

theorem newline?_length {t rest : Text} (h : newline? t = some rest) : rest.length ≤ t.length := by
  unfold newline? at h
  split at h
  · cases h; simp
  · cases h; simp only [List.length_cons]; omega
  · cases h

theorem skipLines_length (t : Text) : (skipLines t).length ≤ t.length := by
  fun_induction skipLines t with
  | case1 t ih => simp only [List.length_cons]; omega
  | case2 t ih => simp only [List.length_cons]; omega
  | case3 t ih => simp only [List.length_cons]; omega
  | case4 t ih => simp only [List.length_cons]; omega
  | case5 t => exact Nat.le_refl _

theorem continued?_length {t rest : Text} (h : continued? t = some rest) : rest.length ≤ t.length := by
  obtain ⟨a, ha, rfl⟩ := Option.map_eq_some_iff.1 h
  have h1 := newline?_length ha
  have h2 := skipLines_length a
  have h3 := length_dropWhile_le isBlank t
  simp only [skipBlank] at h1
  omega

/-- a text over several lines up to its closing double quotes -/
def basicLines : Text → Option (Text × Text)
  | [] => none
  | '"' :: t =>
    if 3 ≤ quotes '"' ('"' :: t) then closing? '"' ('"' :: t) else (basicLines t).map (consRead '"')
  | '\\' :: t =>
    match _h : continued? t with
    | some rest => basicLines rest
    | none =>
      match _h : escape? t with
      | none => none
      | some (c, rest) => (basicLines rest).map (consRead c)
  | '\n' :: t => (basicLines t).map (consRead '\n')
  | '\r' :: '\n' :: t => (basicLines t).map (consRead '\r' ∘ consRead '\n')
  | c :: t => if plain c then (basicLines t).map (consRead c) else none
termination_by t => t.length
decreasing_by
  · simp
  · have := continued?_length _h
    simp only [List.length_cons]
    omega
  · have := escape?_length _h
    simp only [List.length_cons]
    omega
  · simp
  · simp only [List.length_cons]; omega
  · simp

/-- a text over several lines up to its closing single quotes -/
def literalLines : Text → Option (Text × Text)
  | [] => none
  | '\'' :: t =>
    if 3 ≤ quotes '\'' ('\'' :: t) then closing? '\'' ('\'' :: t) else (literalLines t).map (consRead '\'')
  | '\n' :: t => (literalLines t).map (consRead '\n')
  | '\r' :: '\n' :: t => (literalLines t).map (consRead '\r' ∘ consRead '\n')
  | c :: t => if plain c then (literalLines t).map (consRead c) else none

/-- a text without the newline it starts with, if it does -/
def dropNewline (t : Text) : Text := (newline? t).getD t

/-- the text in quotes that starts here -/
def text? : Text → Option (Text × Text)
  | '"' :: '"' :: '"' :: t => basicLines (dropNewline t)
  | '\'' :: '\'' :: '\'' :: t => literalLines (dropNewline t)
  | '"' :: t => basicBody t
  | '\'' :: t => literalBody t
  | _ => none

example : text? "\"a\\tb\\u00e9\"x".toList = some ("a\tbé".toList, ['x']) := by decide +kernel

example : text? "\"\"\"\\\n  a\"\"\"\"\"".toList = some ("a\"\"".toList, []) := by decide +kernel

example : text? "\"\\ud800\"".toList = none := by decide +kernel

end CallFeed.Toml
