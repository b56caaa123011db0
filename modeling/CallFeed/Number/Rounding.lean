/-
Rounding a quotient of naturals to a natural.

- `roundHalfEven num den`: to the nearest, a half to the even neighbour; `roundHalfEven_near`: within half a unit;
- `ceilDiv num den`: up; `ceilDiv_le_iff`: it is the least natural not below the quotient.
-/

namespace CallFeed.Number

/-- `num / den` to the nearest natural, a half to the even neighbour -/
def roundHalfEven (num den : Nat) : Nat :=
  let q := num / den
  let r := num % den
  if 2 * r < den then q
  else if den < 2 * r then q + 1
  else q + q % 2

/-- `num / den` rounded up -/
def ceilDiv (num den : Nat) : Nat := (num + (den - 1)) / den

theorem roundHalfEven_near (num : Nat) {den : Nat} (h : 0 < den) :
    2 * (roundHalfEven num den * den) ≤ 2 * num + den ∧ 2 * num ≤ 2 * (roundHalfEven num den * den) + den := by
  have e : den * (num / den) + num % den = num := Nat.div_add_mod num den
  have l : num % den < den := Nat.mod_lt _ h
  have hp : num / den * den = den * (num / den) := Nat.mul_comm ..
  simp only [roundHalfEven]
  split
  · omega
  split
  · rw [Nat.add_mul]; omega
  · rcases Nat.mod_two_eq_zero_or_one (num / den) with h2 | h2 <;> rw [h2, Nat.add_mul] <;> omega

theorem roundHalfEven_half (q : Nat) : roundHalfEven (2 * q + 1) 2 = q + q % 2 := by
  have h1 : (2 * q + 1) / 2 = q := by omega
  have h2 : (2 * q + 1) % 2 = 1 := by omega
  simp [roundHalfEven, h1, h2]

theorem ceilDiv_le_iff {num den k : Nat} (h : 0 < den) : ceilDiv num den ≤ k ↔ num ≤ k * den := by
  rw [ceilDiv, Nat.div_le_iff_le_mul h]
  omega

theorem le_ceilDiv_mul (num : Nat) {den : Nat} (h : 0 < den) : num ≤ ceilDiv num den * den :=
  (ceilDiv_le_iff h).1 (Nat.le_refl _)

theorem ceilDiv_mul_lt (num : Nat) {den : Nat} (h : 0 < den) : ceilDiv num den * den < num + den := by
  have hdown := Nat.div_mul_le_self (num + (den - 1)) den
  unfold ceilDiv
  omega

end CallFeed.Number
