/-
Reading UTF-8. Octets are cut into pieces, each a character or a run of octets that no character can hold: a lead octet
with the continuation octets that still fit it. A reader that must have text refuses any such run (`decode?`); one that
must go on shows each run as one replacement character (`decodeLossy`).

- `pieces_ascii_cons`: an octet below 0x80 is the character of its number;
- `decode?_utf8_of_ascii`: what was written from an ASCII text reads back.
-/
import CallFeed.Text.Basic

namespace CallFeed.Text

/-- a piece of an octet sequence: a character, or octets that are none -/
inductive Piece where
  | char (c : Char)
  | bad (octets : Octets)
deriving DecidableEq, Repr

/-- how many continuation octets follow a lead octet and the range of the first of them; `none` if it leads nothing -/
def continuations (lead : UInt8) : Option (Nat × UInt8 × UInt8) :=
  if lead < 0x80 then some (0, 0x80, 0xBF)
  else if 0xC2 ≤ lead ∧ lead ≤ 0xDF then some (1, 0x80, 0xBF)
  else if lead = 0xE0 then some (2, 0xA0, 0xBF)
  else if lead = 0xED then some (2, 0x80, 0x9F)
  else if 0xE1 ≤ lead ∧ lead ≤ 0xEF then some (2, 0x80, 0xBF)
  else if lead = 0xF0 then some (3, 0x90, 0xBF)
  else if 0xF1 ≤ lead ∧ lead ≤ 0xF3 then some (3, 0x80, 0xBF)
  else if lead = 0xF4 then some (3, 0x80, 0x8F)
  else none

/-- the continuation octets in front, at most `n`, the first of them within `lo..hi` -/
def takeContinuations : Nat → UInt8 → UInt8 → Octets → Octets
  | n + 1, lo, hi, b :: rest => if lo ≤ b ∧ b ≤ hi then b :: takeContinuations n 0x80 0xBF rest else []
  | _, _, _, _ => []

/-- the code point that a lead octet and its continuation octets stand for -/
def codePoint (lead : UInt8) (tail : Octets) : Nat :=
  let top := match tail.length with
    | 0 => lead.toNat
    | 1 => lead.toNat % 32
    | 2 => lead.toNat % 16
    | _ => lead.toNat % 8
  tail.foldl (fun acc b => acc * 64 + b.toNat % 64) top

/-- the piece that starts with `lead`, and how many octets of the rest it takes -/
def firstPiece (lead : UInt8) (rest : Octets) : Piece × Nat :=
  match continuations lead with
  | none => (.bad [lead], 0)
  | some (n, lo, hi) =>
    let tail := takeContinuations n lo hi rest
    if tail.length = n then (.char (Char.ofNat (codePoint lead tail)), n) else (.bad (lead :: tail), tail.length)

/-- the pieces of an octet sequence, in order -/
def pieces : Octets → List Piece
  | [] => []
  | b :: rest => (firstPiece b rest).1 :: pieces (rest.drop (firstPiece b rest).2)
termination_by s => s.length
decreasing_by simp only [List.length_drop, List.length_cons]; omega

/-- the character of a piece -/
def Piece.char? : Piece → Option Char
  | .char c => some c
  | .bad _ => none

/-- the text of octets that are UTF-8 throughout -/
def decode? (s : Octets) : Option Text := (pieces s).mapM Piece.char?

/-- the text with each run of bad octets shown as U+FFFD -/
def decodeLossy (s : Octets) : Text := (pieces s).map fun p => p.char?.getD (Char.ofNat 0xFFFD)

@[simp] theorem pieces_nil : pieces [] = [] := by rw [pieces]

theorem pieces_ascii_cons {b : UInt8} (h : b < 0x80) (s : Octets) :
    pieces (b :: s) = .char (Char.ofNat b.toNat) :: pieces s := by
  rw [pieces]
  simp [firstPiece, continuations, h, takeContinuations, codePoint]

theorem decode?_ascii_cons {b : UInt8} (h : b < 0x80) (s : Octets) :
    decode? (b :: s) = (decode? s).map (Char.ofNat b.toNat :: ·) := by
  rw [decode?, pieces_ascii_cons h, List.mapM_cons, decode?]
  cases (pieces s).mapM Piece.char? <;> rfl

theorem decode?_utf8_of_ascii {t : Text} (h : IsAscii t) : decode? (utf8 t) = some t := by
  induction t with
  | nil => simp [decode?]
  | cons c t ih =>
    have hc : c.toNat < 128 := h c List.mem_cons_self
    have ht : IsAscii t := fun d hd => h d (List.mem_cons_of_mem c hd)
    have hb : UInt8.ofNat c.toNat < 0x80 := by
      rw [UInt8.lt_iff_toNat_lt, UInt8.toNat_ofNat']
      have : c.toNat % 2 ^ 8 < 128 := by omega
      exact this
    have hn : (UInt8.ofNat c.toNat).toNat = c.toNat := by
      rw [UInt8.toNat_ofNat']; omega
    rw [utf8_cons, encode_of_ascii hc, List.singleton_append, decode?_ascii_cons hb, ih ht, hn]
    simp

example : decode? [0xC3, 0xA9] = some ['é'] := by decide +kernel

example : decodeLossy [0x61, 0xE2, 0x82, 0x62, 0xFF] = ['a', Char.ofNat 0xFFFD, 'b', Char.ofNat 0xFFFD] := by
  decide +kernel

example : decode? [0xED, 0xA0, 0x80] = none := by decide +kernel

end CallFeed.Text
