/-
Hexadecimal numerals.

Digits may be of either case. A number is written in lower case and without leading zeros, so it is one of the numerals
that are read to it.

- `IsHex`, `readDigits_hex_iff`: the texts that are read to a number;
- `isHex_hexadecimal`: a number as it is written is one of them, and `length_hexadecimal_le` how long it can be.
-/
import Mathlib.Data.List.Induction
import CallFeed.Proofs.Text.Numeral

namespace CallFeed.Text

/-- a hexadecimal digit, in either case, of a value -/
def IsHexDigit (c : Char) (d : Nat) : Prop := d < 16 ∧ (c = d.digitChar ∨ c = d.digitChar.toUpper)

theorem digit?_of_isHexDigit {c : Char} {d : Nat} (h : IsHexDigit c d) : digit? 16 c = some d := by
  have hall : ∀ d < 16, digit? 16 (Nat.digitChar d) = some d ∧ digit? 16 (Nat.digitChar d).toUpper = some d := by decide
  obtain ⟨hd, rfl | rfl⟩ := h
  · exact (hall d hd).1
  · exact (hall d hd).2

theorem isHexDigit_of_digit? {c : Char} {d : Nat} (h : digit? 16 c = some d) : IsHexDigit c d := by
  have hall : ∀ n < 128, ∀ d < 16, digit? 16 (Char.ofNat n) = some d →
      Char.ofNat n = Nat.digitChar d ∨ Char.ofNat n = (Nat.digitChar d).toUpper := by decide +kernel
  have hd : d < 16 := of_decide_eq_true (Option.filter_eq_some_iff.1 h).2
  have hc : c.toNat < 128 := by
    obtain ⟨hvalue, -⟩ := Option.filter_eq_some_iff.1 h
    split at hvalue
    · rename_i hdigit
      have hle := (bounds_of_isDigit hdigit).2
      omega
    · split at hvalue
      · rename_i hletter
        have hle : c.toNat ≤ 102 := hletter.2
        omega
      · split at hvalue
        · rename_i hletter
          have hle : c.toNat ≤ 70 := hletter.2
          omega
        · cases hvalue
  have hchar := hall c.toNat hc d hd
  rw [Char.ofNat_toNat] at hchar
  exact ⟨hd, hchar h⟩

/-- what is no hexadecimal digit is no decimal one -/
theorem isDigit_eq_false {c : Char} (h : digit? 16 c = none) : c.isDigit = false := by
  by_contra hdigit
  rw [Bool.not_eq_false] at hdigit
  have hbounds := bounds_of_isDigit hdigit
  have hlt : c.toNat - 48 < 16 := by omega
  have hsome : digit? 16 c = some (c.toNat - 48) := by simp [digit?, hdigit, hlt]
  rw [hsome] at h
  cases h

/-- hexadecimal digits that come to a number -/
inductive IsHex : Text → Nat → Prop where
  | nil : IsHex [] 0
  | digit {t : Text} {n : Nat} {c : Char} {d : Nat} (ht : IsHex t n) (hc : IsHexDigit c d) : IsHex (t ++ [c]) (n * 16 + d)

/-- **What is read as hexadecimal digits is hexadecimal digits**, and the number is theirs. -/
theorem readDigits_hex_iff {max n : Nat} {beyond : NumeralFault} {t : Text} :
    readDigits 16 max beyond 0 t = .ok n ↔ IsHex t n ∧ n ≤ max := by
  constructor
  · intro h
    induction t using List.reverseRecOn generalizing n with
    | nil =>
      obtain rfl := Except.ok.inj h
      exact ⟨.nil, Nat.zero_le max⟩
    | append_singleton t c ih =>
      rw [readDigits_append] at h
      obtain ⟨m, hm, hlast⟩ := ok_of_bind h
      rw [readDigits] at hlast
      split at hlast
      · cases hlast
      · rename_i d hd
        split at hlast
        · rename_i hle
          obtain rfl := Except.ok.inj hlast
          exact ⟨.digit (ih hm).1 (isHexDigit_of_digit? hd), hle⟩
        · cases hlast
  · rintro ⟨ht, hle⟩
    induction ht with
    | nil => rfl
    | @digit t n c d ht hc ih =>
      rw [readDigits_append, ih (by omega)]
      show readDigits 16 max beyond n [c] = _
      rw [readDigits, digit?_of_isHexDigit hc]
      dsimp only
      rw [if_pos hle]
      rfl

theorem hexadecimal_eq_of_lt {n : Nat} (h : n < 16) : hexadecimal n = [n.digitChar] := by
  rw [hexadecimal, Nat.toDigits_of_lt_base h]

theorem hexadecimal_eq_append {n : Nat} (h : 16 ≤ n) : hexadecimal n = hexadecimal (n / 16) ++ [(n % 16).digitChar] := by
  rw [hexadecimal, hexadecimal, Nat.toDigits_of_base_le (by omega) h]

/-- **A number as it is written is a numeral of it.** -/
theorem isHex_hexadecimal (n : Nat) : IsHex (hexadecimal n) n := by
  induction n using Nat.strongRecOn with
  | _ n ih =>
    by_cases hn : n < 16
    · rw [hexadecimal_eq_of_lt hn]
      have hdigit := IsHex.nil.digit (c := n.digitChar) ⟨hn, Or.inl rfl⟩
      rwa [Nat.zero_mul, Nat.zero_add, List.nil_append] at hdigit
    · have hdigit := (ih (n / 16) (by omega)).digit (c := (n % 16).digitChar)
        ⟨Nat.mod_lt n (by decide), Or.inl rfl⟩
      rwa [Nat.div_add_mod', ← hexadecimal_eq_append (Nat.not_lt.1 hn)] at hdigit

theorem hexadecimal_ne_nil (n : Nat) : hexadecimal n ≠ [] := Nat.toDigits_ne_nil

/-- a number of sixteen times as much has one digit more -/
theorem length_hexadecimal_le_succ {bound width : Nat} (h : ∀ n < bound, (hexadecimal n).length ≤ width + 1) {n : Nat}
    (hn : n < bound * 16) : (hexadecimal n).length ≤ width + 2 := by
  by_cases hlt : n < 16
  · rw [hexadecimal_eq_of_lt hlt]
    exact Nat.succ_le_succ (Nat.zero_le _)
  · rw [hexadecimal_eq_append (Nat.not_lt.1 hlt), List.length_append]
    exact Nat.succ_le_succ (h (n / 16) (Nat.div_lt_of_lt_mul (by rwa [Nat.mul_comm])))

theorem length_hexadecimal_le {n : Nat} (h : n < 65536) : (hexadecimal n).length ≤ 4 := by
  have one : ∀ n < 16, (hexadecimal n).length ≤ 1 := fun n hn => by
    rw [hexadecimal_eq_of_lt hn]
    exact Nat.le_refl 1
  have two : ∀ n < 256, (hexadecimal n).length ≤ 2 := fun n hn => length_hexadecimal_le_succ one hn
  have three : ∀ n < 4096, (hexadecimal n).length ≤ 3 := fun n hn => length_hexadecimal_le_succ two hn
  exact length_hexadecimal_le_succ three h

/-- a character that is no hexadecimal digit stands in no such numeral -/
theorem IsHex.not_mem {t : Text} {n : Nat} (h : IsHex t n) {c : Char} (hc : digit? 16 c = none) : c ∉ t := by
  induction h with
  | nil => exact List.not_mem_nil
  | @digit t n c' d ht hc' ih =>
    rw [List.mem_append, List.mem_singleton]
    rintro (hmem | rfl)
    · exact ih hmem
    · rw [digit?_of_isHexDigit hc'] at hc
      cases hc

end CallFeed.Text
