/-
Numerals: numbers as text and text as numbers.

A number is written in decimal without leading zeros (`decimal`) or in at least so many digits (`padded`). A numeral is
read digit by digit against the largest value allowed, and the first thing wrong with it is what is reported.

- `readDigits_append`: reading goes left to right, so the first fault wins;
- `readDigits_decimal`: what was written reads back, when the largest value allows it.
-/
import CallFeed.Text.Basic

namespace CallFeed.Text

/-- the decimal digits of `n`, without leading zeros -/
def decimal (n : Nat) : Text := Nat.toDigits 10 n

/-- `n` in decimal with leading zeros up to `width` digits -/
def padded (width n : Nat) : Text := List.replicate (width - (decimal n).length) '0' ++ decimal n

/-- `n` in lower-case hexadecimal -/
def hexadecimal (n : Nat) : Text := Nat.toDigits 16 n

/-- `n` in hexadecimal with leading zeros up to `width` digits -/
def paddedHex (width n : Nat) : Text := List.replicate (width - (hexadecimal n).length) '0' ++ hexadecimal n

/-- the value of a digit in a base up to sixteen -/
def digit? (base : Nat) (c : Char) : Option Nat :=
  let v :=
    if c.isDigit then some (c.toNat - 48)
    else if 'a' ≤ c ∧ c ≤ 'f' then some (c.toNat - 87)
    else if 'A' ≤ c ∧ c ≤ 'F' then some (c.toNat - 55)
    else none
  v.filter (· < base)

/-- what can be wrong with a numeral -/
inductive NumeralFault where
  | empty
  | notDigit
  | tooLarge
  | tooSmall
deriving DecidableEq, Repr

/-- the words for a fault -/
def NumeralFault.message : NumeralFault → String
  | .empty => "cannot parse integer from empty string"
  | .notDigit => "invalid digit found in string"
  | .tooLarge => "number too large to fit in target type"
  | .tooSmall => "number too small to fit in target type"

/-- digits read onto `v`: a character that is no digit, or a digit that takes the value beyond `max`, ends the reading -/
def readDigits (base max : Nat) (beyond : NumeralFault) : Nat → Text → Except NumeralFault Nat
  | v, [] => .ok v
  | v, c :: rest =>
    match digit? base c with
    | none => .error .notDigit
    | some d => if v * base + d ≤ max then readDigits base max beyond (v * base + d) rest else .error beyond

/-- a numeral without sign or with a leading plus, of a value up to `max` -/
def readUnsigned (max : Nat) : Text → Except NumeralFault Nat
  | [] => .error .empty
  | ['+'] => .error .notDigit
  | '+' :: ds => readDigits 10 max .tooLarge 0 ds
  | ds => readDigits 10 max .tooLarge 0 ds

/-- integers of 64 bits with a sign lie from minus this number to just below it -/
def signedBound : Nat := 9223372036854775808

/-- a numeral in a base with an optional sign, of a value from `-bound` to just below `bound` -/
def readSigned (base bound : Nat) : Text → Except NumeralFault Int
  | [] => .error .empty
  | ['+'] => .error .notDigit
  | ['-'] => .error .notDigit
  | '+' :: ds => Int.ofNat <$> readDigits base (bound - 1) .tooLarge 0 ds
  | '-' :: ds => (fun n => -Int.ofNat n) <$> readDigits base bound .tooSmall 0 ds
  | ds => Int.ofNat <$> readDigits base (bound - 1) .tooLarge 0 ds

theorem readDigits_append (base max : Nat) (beyond : NumeralFault) (v : Nat) (s t : Text) :
    readDigits base max beyond v (s ++ t) = (readDigits base max beyond v s).bind (readDigits base max beyond · t) := by
  induction s generalizing v with
  | nil => rfl
  | cons c s ih =>
    simp only [List.cons_append, readDigits]
    cases digit? base c with
    | none => rfl
    | some d =>
      dsimp only
      split
      · exact ih _
      · rfl

theorem digit?_digitChar {n : Nat} (h : n < 10) : digit? 10 n.digitChar = some n := by
  have : ∀ m < 10, digit? 10 (Nat.digitChar m) = some m := by decide
  exact this n h

theorem decimal_eq_of_lt {n : Nat} (h : n < 10) : decimal n = [n.digitChar] := by
  rw [decimal, Nat.toDigits_of_lt_base h]

theorem decimal_eq_append {n : Nat} (h : 10 ≤ n) : decimal n = decimal (n / 10) ++ [(n % 10).digitChar] := by
  rw [decimal, decimal, Nat.toDigits_of_base_le (by omega) h]

theorem readDigits_decimal {max n : Nat} (beyond : NumeralFault) (h : n ≤ max) :
    readDigits 10 max beyond 0 (decimal n) = .ok n := by
  induction n using Nat.strongRecOn with
  | _ n ih =>
    by_cases hn : n < 10
    · rw [decimal_eq_of_lt hn]
      simp [readDigits, digit?_digitChar hn, h]
    · have hlt : n / 10 < n := by omega
      rw [decimal_eq_append (by omega), readDigits_append, ih (n / 10) hlt (by omega)]
      have hd : digit? 10 (n % 10).digitChar = some (n % 10) := digit?_digitChar (by omega)
      have hv : n / 10 * 10 + n % 10 = n := by omega
      simp [Except.bind, readDigits, hd, hv, h]

end CallFeed.Text
