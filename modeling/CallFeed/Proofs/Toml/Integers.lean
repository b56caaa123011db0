/-
Decimal integers as tokens.

- `natOf_padded`: digits that were written from a number come to it;
- `readSigned_integerText`: the decimal text of an integer of 64 bits reads back;
- `tokenValue?_integerText`: so the integer is what the token stands for.
-/
import Mathlib.Data.List.TakeWhile
import CallFeed.Proofs.Text.Numeral
import CallFeed.Toml.Document

namespace CallFeed.Toml

open CallFeed.Text

theorem natOf_eq (ds : Text) : natOf ds = ds.foldl addDigit 0 := rfl

/-- **Digits that were written from a number come to it**, also with zeros in front. -/
theorem natOf_padded (width n : Nat) : natOf (padded width n) = n := by
  have hdigits : ∀ c ∈ padded width n, c.isDigit = true := fun c hc => isDigit_of_mem_padded hc
  have hread := readDigits_of_digits hdigits n .tooLarge 0 (Nat.zero_le n)
  rw [readDigits_padded .tooLarge width (Nat.le_refl n)] at hread
  split at hread
  · exact (Except.ok.inj hread).symm
  · cases hread

theorem natOf_decimal (n : Nat) : natOf (decimal n) = n := by rw [decimal_eq_padded, natOf_padded]

/-! ## Tokens -/

/-- a digit is no sign -/
theorem splitSign_of_isDigit {c : Char} (h : c.isDigit = true) (t : Text) : splitSign (c :: t) = (none, c :: t) := by
  unfold splitSign
  split
  · rename_i heq
    rw [(List.cons.inj heq).1] at h
    cases h
  · rename_i heq
    rw [(List.cons.inj heq).1] at h
    cases h
  · rfl

theorem splitSign_decimal (n : Nat) : splitSign (decimal n) = (none, decimal n) := by
  obtain ⟨c, t, hc⟩ := List.exists_cons_of_ne_nil (decimal_ne_nil n)
  have hdigit : c.isDigit = true := isDigit_of_mem_decimal (hc ▸ List.mem_cons_self)
  rw [hc]
  exact splitSign_of_isDigit hdigit t

/-- the decimal text of an integer -/
def integerText (v : Int) : Text := if v < 0 then '-' :: decimal v.natAbs else decimal v.natAbs

/-- a character of the decimal text of an integer -/
def isIntegerChar (c : Char) : Bool := c.isDigit || c == '-'

theorem isIntegerChar_of_mem {v : Int} {c : Char} (h : c ∈ integerText v) : isIntegerChar c = true := by
  have hdecimal {n : Nat} (hc : c ∈ decimal n) : isIntegerChar c = true := by
    simp [isIntegerChar, isDigit_of_mem_decimal hc]
  unfold integerText at h
  split at h
  · rcases List.mem_cons.1 h with rfl | h
    · decide
    · exact hdecimal h
  · exact hdecimal h

theorem integerText_ne_nil (v : Int) : integerText v ≠ [] := by
  unfold integerText
  split
  · exact List.cons_ne_nil _ _
  · exact decimal_ne_nil _

/-- the sign apart, the text is the digits of the size -/
theorem splitSign_integerText (v : Int) :
    splitSign (integerText v) = (if v < 0 then some '-' else none, decimal v.natAbs) := by
  unfold integerText
  split
  · rfl
  · exact splitSign_decimal _

/-- an integer of 64 bits reads back -/
theorem readSigned_integerText {v : Int} (hlow : -(signedBound : Int) ≤ v) (hhigh : v < signedBound) :
    readSigned 10 signedBound (integerText v) = .ok v := by
  unfold integerText
  by_cases hv : v < 0
  · have hvalue : -Int.ofNat v.natAbs = v := by
      rw [Int.ofNat_eq_natCast]
      omega
    rw [if_pos hv, readSigned_minus (decimal_ne_nil _), readDigits_decimal .tooSmall (by omega)]
    exact congrArg Except.ok hvalue
  · rw [if_neg hv, readSigned_digits (decimal_ne_nil _) (fun c hc => isDigit_of_mem_decimal hc),
      readDigits_decimal .tooLarge (by omega)]
    exact congrArg Except.ok (Int.natAbs_of_nonneg (Int.not_lt.1 hv))

theorem leadsZero_decimal (n : Nat) : leadsZero (decimal n) = false := by
  by_cases hn : n = 0
  · rw [hn]
    decide
  · simp [leadsZero, head?_decimal_ne_zero hn]

/-- **Every integer of 64 bits is what its decimal text stands for.** -/
theorem tokenValue?_integerText {v : Int} (hlow : -(signedBound : Int) ≤ v) (hhigh : v < signedBound) :
    tokenValue? (integerText v) = some (.scalar (.integer v)) := by
  have hno {c : Char} (h : isIntegerChar c = false) : c ∉ integerText v := fun hc => by
    rw [isIntegerChar_of_mem hc] at h
    cases h
  have hdrop : (decimal v.natAbs).dropWhile Char.isDigit = [] :=
    List.dropWhile_eq_nil_iff.2 fun c hc => isDigit_of_mem_decimal hc
  have hparts : parts '_' (integerText v) = [integerText v] := parts_of_notMem (hno (by decide))
  have hwithout : withoutUnderscores (integerText v) = integerText v :=
    List.filter_eq_self.2 fun c hc => decide_eq_true fun heq => hno (by decide) (heq ▸ hc)
  have hplain : plain? (integerText v) = some (.scalar (.integer v)) := by
    simp only [plain?, splitSign_integerText, hdrop, leadsZero_decimal, separated, hparts, hwithout, integerValue,
      readSigned_integerText hlow hhigh]
    simp [decimal_ne_nil]
  have hnumber : number? (integerText v) = some (.scalar (.integer v)) := by
    unfold number?
    split
    · rename_i heq
      exact absurd (heq ▸ List.mem_cons_of_mem _ List.mem_cons_self) (hno (c := 'x') (by decide))
    · rename_i heq
      exact absurd (heq ▸ List.mem_cons_of_mem _ List.mem_cons_self) (hno (c := 'o') (by decide))
    · rename_i heq
      exact absurd (heq ▸ List.mem_cons_of_mem _ List.mem_cons_self) (hno (c := 'b') (by decide))
    · rw [splitSign_integerText, hdrop, hplain]
      rfl
  have htrue : integerText v ≠ "true".toList := fun heq =>
    hno (c := 't') (by decide) (heq ▸ List.mem_cons_self)
  have hfalse : integerText v ≠ "false".toList := fun heq =>
    hno (c := 'f') (by decide) (heq ▸ List.mem_cons_self)
  rw [tokenValue?, if_neg htrue, if_neg hfalse, hnumber]
  rfl

end CallFeed.Toml
