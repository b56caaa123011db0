/-
Text and octets. A text is a list of characters. On the wire and in a file it is its UTF-8 octets.

- `utf8_append`: the octets of a joined text are the joined octets;
- `length_utf8_of_ascii`: an ASCII text has one octet for each character.
-/

namespace CallFeed

/-- characters in order -/
abbrev Text := List Char

/-- octets in order -/
abbrev Octets := List UInt8

/-- the UTF-8 octets of a text -/
def utf8 (t : Text) : Octets := t.flatMap String.utf8EncodeChar

@[simp] theorem utf8_nil : utf8 [] = [] := rfl

@[simp] theorem utf8_append (s t : Text) : utf8 (s ++ t) = utf8 s ++ utf8 t := by
  simp [utf8]

theorem utf8_cons (c : Char) (t : Text) : utf8 (c :: t) = String.utf8EncodeChar c ++ utf8 t := by
  simp [utf8]

/-- every character is ASCII -/
def IsAscii (t : Text) : Prop := ∀ c ∈ t, c.toNat < 128

theorem encode_of_ascii {c : Char} (h : c.toNat < 128) :
    String.utf8EncodeChar c = [UInt8.ofNat c.toNat] := by
  have h' : c.toNat ≤ 127 := by omega
  simp [String.utf8EncodeChar, h']

theorem length_utf8_of_ascii {t : Text} (h : IsAscii t) : (utf8 t).length = t.length := by
  induction t with
  | nil => rfl
  | cons c t ih =>
    have hc : c.toNat < 128 := h c List.mem_cons_self
    have ht : IsAscii t := fun d hd => h d (List.mem_cons_of_mem c hd)
    simp [utf8_cons, encode_of_ascii hc, ih ht]

end CallFeed
