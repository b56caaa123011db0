/-
The order of texts, character by character, where it is the order of the numbers in them.

- `append_lt_append_iff`: behind parts of one length the first difference decides;
- `utf8_lt_utf8_iff`: ASCII texts are ordered as their octets are;
- `padded_lt_padded_iff`: numerals of one width are ordered as their numbers are.
-/
import CallFeed.Proofs.Event.Plain
import CallFeed.Proofs.Text.Numeral

namespace CallFeed.Text

/-- **Behind parts of one length the first difference decides.** -/
theorem append_lt_append_iff {a b : Text} (h : a.length = b.length) (s t : Text) :
    a ++ s < b ++ t ↔ a < b ∨ a = b ∧ s < t := by
  induction a generalizing b with
  | nil =>
    rw [List.length_eq_zero_iff.1 h.symm]
    simp
  | cons c a ih =>
    cases b with
    | nil => cases h
    | cons d b =>
      have hrest := ih (Nat.succ.inj h)
      simp only [List.cons_append, List.cons_lt_cons_iff, hrest, List.cons.injEq]
      constructor
      · rintro (hlt | ⟨rfl, hlt | ⟨rfl, hlt⟩⟩)
        · exact .inl (.inl hlt)
        · exact .inl (.inr ⟨rfl, hlt⟩)
        · exact .inr ⟨⟨rfl, rfl⟩, hlt⟩
      · rintro ((hlt | ⟨rfl, hlt⟩) | ⟨⟨rfl, rfl⟩, hlt⟩)
        · exact .inl hlt
        · exact .inr ⟨rfl, .inl hlt⟩
        · exact .inr ⟨rfl, .inr ⟨rfl, hlt⟩⟩

theorem cons_lt_cons_self_iff (c : Char) (s t : Text) : c :: s < c :: t ↔ s < t := by
  rw [List.cons_lt_cons_iff]
  constructor
  · rintro (hlt | ⟨-, hlt⟩)
    · exact absurd hlt (Char.lt_irrefl c)
    · exact hlt
  · intro hlt
    exact .inr ⟨rfl, hlt⟩

/-! ## Octets -/

theorem toNat_octet {c : Char} (h : c.toNat < 128) : (UInt8.ofNat c.toNat).toNat = c.toNat := by
  rw [UInt8.toNat_ofNat']
  omega

/-- **ASCII texts are ordered as their octets are.** -/
theorem utf8_lt_utf8_iff {s t : Text} (hs : IsAscii s) (ht : IsAscii t) : utf8 s < utf8 t ↔ s < t := by
  induction s generalizing t with
  | nil =>
    cases t with
    | nil => simp
    | cons d t =>
      have hd : d.toNat < 128 := ht d List.mem_cons_self
      simp [utf8_cons, encode_of_ascii hd]
  | cons c s ih =>
    have hc : c.toNat < 128 := hs c List.mem_cons_self
    cases t with
    | nil => simp [utf8_cons, encode_of_ascii hc]
    | cons d t =>
      have hd : d.toNat < 128 := ht d List.mem_cons_self
      have hrest := ih (fun x hx => hs x (List.mem_cons_of_mem c hx)) (fun x hx => ht x (List.mem_cons_of_mem d hx))
      have hlt : UInt8.ofNat c.toNat < UInt8.ofNat d.toNat ↔ c < d := by
        rw [UInt8.lt_iff_toNat_lt, toNat_octet hc, toNat_octet hd]
        exact Iff.rfl
      have heq : UInt8.ofNat c.toNat = UInt8.ofNat d.toNat ↔ c = d := by
        rw [← UInt8.toNat_inj, toNat_octet hc, toNat_octet hd]
        exact Char.toNat_inj
      rw [utf8_cons, utf8_cons, encode_of_ascii hc, encode_of_ascii hd, List.singleton_append, List.singleton_append,
        List.cons_lt_cons_iff, List.cons_lt_cons_iff, hlt, heq, hrest]

/-! ## Numerals -/

theorem digitChar_lt_digitChar_iff {m n : Nat} (hm : m < 10) (hn : n < 10) : m.digitChar < n.digitChar ↔ m < n := by
  have h : ∀ m < 10, ∀ n < 10, (Nat.digitChar m < Nat.digitChar n ↔ m < n) := by decide
  exact h m hm n hn

/-- the last digit of a numeral of some width comes behind a numeral that is one digit shorter -/
theorem padded_succ (width n : Nat) :
    padded (width + 2) n = padded (width + 1) (n / 10) ++ [(n % 10).digitChar] := by
  by_cases hn : n < 10
  · have hzero : n / 10 = 0 := by omega
    have hlast : n % 10 = n := by omega
    rw [hzero, hlast, padded, padded, decimal_eq_of_lt hn, decimal_eq_of_lt (show 0 < 10 by decide)]
    show List.replicate (width + 1) '0' ++ _ = List.replicate width '0' ++ ['0'] ++ _
    rw [List.replicate_succ']
  · rw [padded, padded, decimal_eq_append (Nat.not_lt.1 hn), List.length_append, ← List.append_assoc]
    have hcount : width + 2 - ((decimal (n / 10)).length + 1) = width + 1 - (decimal (n / 10)).length := by omega
    exact congrArg (fun k => List.replicate k '0' ++ decimal (n / 10) ++ [(n % 10).digitChar]) hcount

/-- **Numerals of one width are ordered as their numbers are.** -/
theorem padded_lt_padded_iff {width m n : Nat} (hm : m < Number.tenTo (width + 1)) (hn : n < Number.tenTo (width + 1)) :
    padded (width + 1) m < padded (width + 1) n ↔ m < n := by
  induction width generalizing m n with
  | zero =>
    have hm : m < 10 := hm
    have hn : n < 10 := hn
    rw [padded, padded, decimal_eq_of_lt hm, decimal_eq_of_lt hn]
    show [m.digitChar] < [n.digitChar] ↔ m < n
    rw [List.cons_lt_cons_iff, digitChar_lt_digitChar_iff hm hn]
    simp
  | succ width ih =>
    rw [Number.tenTo_succ] at hm hn
    have hm' : m / 10 < Number.tenTo (width + 1) := by omega
    have hn' : n / 10 < Number.tenTo (width + 1) := by omega
    have hlast : [(m % 10).digitChar] < [(n % 10).digitChar] ↔ m % 10 < n % 10 := by
      rw [List.cons_lt_cons_iff, digitChar_lt_digitChar_iff (by omega) (by omega)]
      simp
    have hlen : (padded (width + 1) (m / 10)).length = (padded (width + 1) (n / 10)).length := by
      rw [length_padded hm', length_padded hn']
    have heq : padded (width + 1) (m / 10) = padded (width + 1) (n / 10) ↔ m / 10 = n / 10 :=
      ⟨padded_inj, fun h => by rw [h]⟩
    rw [padded_succ, padded_succ, append_lt_append_iff hlen, ih hm' hn', heq, hlast]
    omega

end CallFeed.Text
