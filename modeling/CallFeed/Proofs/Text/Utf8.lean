/-
ASCII and UTF-8: octets that decode to an ASCII text are its octets.

A character of several octets is never an ASCII one, because each lead octet leaves out the continuations that would
make it one, or would make it no character at all.

- `continuations_cases`: the lead octets above ASCII, and what they leave out;
- `codePoint_spec`: what such a lead octet can stand for;
- `eq_utf8_of_decode?`: an ASCII text is written in one way only.
-/
import CallFeed.Text.Utf8

namespace CallFeed.Text

theorem toNat_ofNat {n : Nat} (h : n.isValidChar) : (Char.ofNat n).toNat = n := by
  unfold Char.ofNat
  rw [dif_pos h]
  rfl

/-- lead octets of two, three and four octets: of the first continuation they leave out what would be too short, no
character, or too large -/
theorem continuations_cases {lead lo hi : UInt8} {n : Nat} (hlead : ¬ lead < 0x80)
    (h : continuations lead = some (n, lo, hi)) :
    (n = 1 ∧ 194 ≤ lead.toNat ∧ lead.toNat ≤ 223) ∨
      (n = 2 ∧ 224 ≤ lead.toNat ∧ lead.toNat ≤ 239 ∧ 128 ≤ lo.toNat ∧ hi.toNat ≤ 191 ∧
        (lead.toNat ≠ 224 ∨ 160 ≤ lo.toNat) ∧ (lead.toNat ≠ 237 ∨ hi.toNat ≤ 159)) ∨
      (n = 3 ∧ 240 ≤ lead.toNat ∧ lead.toNat ≤ 244 ∧ 128 ≤ lo.toNat ∧ hi.toNat ≤ 191 ∧
        (lead.toNat ≠ 240 ∨ 144 ≤ lo.toNat) ∧ (lead.toNat ≠ 244 ∨ hi.toNat ≤ 143)) := by
  have hvalues {m : Nat} {l r : UInt8} (heq : some (m, l, r) = some (n, lo, hi)) :
      n = m ∧ lo.toNat = l.toNat ∧ hi.toNat = r.toNat := by
    cases heq
    exact ⟨rfl, rfl, rfl⟩
  unfold continuations at h
  simp only [if_neg hlead, UInt8.le_iff_toNat_le, ← UInt8.toNat_inj, UInt8.reduceToNat] at h
  repeat' split at h
  all_goals try
    have hends := hvalues h
    simp only [UInt8.reduceToNat] at hends
    omega
  cases h

theorem of_head?_takeContinuations {n : Nat} {lo hi : UInt8} {rest : Octets} {b : UInt8}
    (h : (takeContinuations n lo hi rest).head? = some b) : lo.toNat ≤ b.toNat ∧ b.toNat ≤ hi.toNat := by
  unfold takeContinuations at h
  split at h
  · split at h
    · rename_i hin
      obtain rfl := Option.some.inj h
      exact hin
    · cases h
  · cases h

/-- **A lead octet above ASCII stands with its continuations for a character above ASCII.** -/
theorem codePoint_spec {lead lo hi : UInt8} {n : Nat} {tail : Octets} (hlead : ¬ lead < 0x80)
    (h : continuations lead = some (n, lo, hi)) (htail : tail.length = n)
    (hfirst : ∀ b, tail.head? = some b → lo.toNat ≤ b.toNat ∧ b.toNat ≤ hi.toNat) :
    128 ≤ codePoint lead tail ∧ (codePoint lead tail).isValidChar := by
  rcases continuations_cases hlead h with ⟨rfl, hlo, hhi⟩ | ⟨rfl, hlo, hhi, hin⟩ | ⟨rfl, hlo, hhi, hin⟩
  · obtain ⟨b, rfl⟩ := List.length_eq_one_iff.1 htail
    have hpoint : codePoint lead [b] = lead.toNat % 32 * 64 + b.toNat % 64 := rfl
    rw [hpoint]
    exact ⟨by omega, Or.inl (by omega)⟩
  · match tail, htail with
    | [b, c], _ =>
      have hpoint : codePoint lead [b, c] = (lead.toNat % 16 * 64 + b.toNat % 64) * 64 + c.toNat % 64 := rfl
      have hb := hfirst b rfl
      rw [hpoint]
      refine ⟨by omega, ?_⟩
      unfold Nat.isValidChar
      omega
  · match tail, htail with
    | [b, c, d], _ =>
      have hpoint : codePoint lead [b, c, d] =
          ((lead.toNat % 8 * 64 + b.toNat % 64) * 64 + c.toNat % 64) * 64 + d.toNat % 64 := rfl
      have hb := hfirst b rfl
      rw [hpoint]
      refine ⟨by omega, ?_⟩
      unfold Nat.isValidChar
      omega

theorem le_of_firstPiece {lead : UInt8} (h : ¬ lead < 0x80) {rest : Octets} {c : Char} {n : Nat}
    (hp : firstPiece lead rest = (.char c, n)) : 128 ≤ c.toNat := by
  unfold firstPiece at hp
  split at hp
  · cases hp
  · rename_i m lo hi hcont
    dsimp only at hp
    split at hp
    · rename_i hlength
      obtain ⟨hle, hvalid⟩ := codePoint_spec h hcont hlength fun b => of_head?_takeContinuations
      cases hp
      rw [toNat_ofNat hvalid]
      exact hle
    · cases hp

/-- a text starts with its first piece -/
theorem of_decode?_cons {b : UInt8} {rest : Octets} {c : Char} {t : Text} (h : decode? (b :: rest) = some (c :: t)) :
    (firstPiece b rest).1 = .char c := by
  rw [decode?, pieces, List.mapM_cons] at h
  obtain ⟨d, hd, hmore⟩ := Option.bind_eq_some_iff.1 h
  obtain ⟨t', -, heq⟩ := Option.bind_eq_some_iff.1 hmore
  obtain ⟨rfl, -⟩ := List.cons.inj (Option.some.inj heq)
  cases hp : (firstPiece b rest).1 with
  | bad octets =>
    rw [hp] at hd
    cases hd
  | char d' =>
    rw [hp] at hd
    cases hd
    rfl

/-- **An ASCII character is written as its octet.** -/
theorem exists_of_decode?_cons {s : Octets} {c : Char} {t : Text} (h : decode? s = some (c :: t)) (hc : c.toNat < 128) :
    ∃ rest, s = UInt8.ofNat c.toNat :: rest ∧ decode? rest = some t := by
  cases s with
  | nil =>
    rw [decode?, pieces_nil] at h
    cases h
  | cons b rest =>
    by_cases hb : b < 0x80
    · rw [decode?_ascii_cons hb] at h
      obtain ⟨t', ht', heq⟩ := Option.map_eq_some_iff.1 h
      obtain ⟨rfl, rfl⟩ := List.cons.inj heq
      have hb' : b.toNat < 128 := UInt8.lt_iff_toNat_lt.1 hb
      refine ⟨rest, ?_, ht'⟩
      rw [toNat_ofNat (Or.inl (Nat.lt_trans hb' (by decide))), UInt8.ofNat_toNat]
    · have hp : firstPiece b rest = (.char c, (firstPiece b rest).2) := by rw [← of_decode?_cons h]
      exact absurd hc (Nat.not_lt.2 (le_of_firstPiece hb hp))

theorem eq_nil_of_decode? {s : Octets} (h : decode? s = some []) : s = [] := by
  cases s with
  | nil => rfl
  | cons b rest =>
    rw [decode?, pieces, List.mapM_cons] at h
    obtain ⟨d, -, hmore⟩ := Option.bind_eq_some_iff.1 h
    obtain ⟨t', -, heq⟩ := Option.bind_eq_some_iff.1 hmore
    cases heq

/-- **An ASCII text is written in one way only.** -/
theorem eq_utf8_of_decode? {s : Octets} {t : Text} (h : decode? s = some t) (ht : IsAscii t) : s = utf8 t := by
  induction t generalizing s with
  | nil => exact eq_nil_of_decode? h
  | cons c t ih =>
    have hc : c.toNat < 128 := ht c List.mem_cons_self
    obtain ⟨rest, rfl, hrest⟩ := exists_of_decode?_cons h hc
    rw [utf8_cons, encode_of_ascii hc, ← ih hrest fun d hd => ht d (List.mem_cons_of_mem c hd)]
    rfl

end CallFeed.Text
