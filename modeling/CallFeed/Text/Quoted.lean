/-
Quoted text, as messages show it: between double quotes, with what would not show written as an escape.

NUL, tab, newline, carriage return, the double quote and the backslash have short escapes. A character that is not
printable, or that would join the one before it, is written by its number in braces. A single quote stays.

- `quoted_printable`: a text of plain printable ASCII only gains its quotes.
-/
import CallFeed.Text.Numeral
import CallFeed.Text.Printable
import CallFeed.Text.Combining
import CallFeed.Text.Utf8

namespace CallFeed.Text

/-- a character inside quotes -/
def quotedChar (c : Char) : Text :=
  if c = '\x00' then ['\\', '0']
  else if c = '\t' then ['\\', 't']
  else if c = '\r' then ['\\', 'r']
  else if c = '\n' then ['\\', 'n']
  else if c = '"' then ['\\', '"']
  else if c = '\\' then ['\\', '\\']
  else if extending c || !printable c then ['\\', 'u', '\x7b'] ++ hexadecimal c.toNat ++ ['\x7d']
  else [c]

/-- a text between quotes -/
def quoted (t : Text) : Text := '"' :: t.flatMap quotedChar ++ ['"']

/-- octets between quotes: characters as in text, and each octet that belongs to none by its two hexadecimal digits -/
def quotedOctets (s : Octets) : Text :=
  '"' :: ((pieces s).flatMap fun
    | .char c => quotedChar c
    | .bad octets => octets.flatMap fun b => ['\\', 'x'] ++ (paddedHex 2 b.toNat).map Char.toUpper) ++ ['"']

theorem quotedChar_of_printable {c : Char} (h1 : 32 ≤ c.toNat) (h2 : c.toNat ≤ 126) (h3 : c ≠ '"') (h4 : c ≠ '\\') :
    quotedChar c = [c] := by
  have hp : printable c = true := by rw [printable_ascii (by omega)]; simp [h1, h2]
  have he : extending c = false := extending_ascii (by omega)
  have ne_of (d : Char) (hd : d.toNat < 32) : c ≠ d := by rintro rfl; omega
  rw [quotedChar]
  simp [ne_of '\x00' (by decide), ne_of '\t' (by decide), ne_of '\r' (by decide), ne_of '\n' (by decide), h3, h4,
    hp, he]

theorem quoted_printable {t : Text} (h : ∀ c ∈ t, 32 ≤ c.toNat ∧ c.toNat ≤ 126 ∧ c ≠ '"' ∧ c ≠ '\\') :
    quoted t = '"' :: t ++ ['"'] := by
  have : t.flatMap quotedChar = t := by
    induction t with
    | nil => rfl
    | cons c t ih =>
      obtain ⟨h1, h2, h3, h4⟩ := h c List.mem_cons_self
      rw [List.flatMap_cons, quotedChar_of_printable h1 h2 h3 h4, ih fun d hd => h d (List.mem_cons_of_mem c hd)]
      rfl
  rw [quoted, this]

example : quoted "a\"b\n'".toList = "\"a\\\"b\\n'\"".toList := by decide +kernel

example : quotedOctets [0x61, 0xFF, 0x62] = "\"a\\xFFb\"".toList := by decide +kernel

end CallFeed.Text
