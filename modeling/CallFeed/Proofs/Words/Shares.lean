/-
Draws as equal shares of 64 random bits.

A draw looks at its second word only where that could carry into the value, yet it gives what both words together would
give: of as many equal shares of all words of 64 bits as there are values, the one that the two words, the first above
the second, lie in.

- `drawValue_eq_share`: a draw gives the share, whether or not it looks at the second word;
- `share_eq_iff`: the words of a share are those from where it starts up to where the next one does;
- `ncard_pairs`: so no value has more than one pair of words more than another.
-/
import Mathlib.Data.Set.Card
import Mathlib.Order.Interval.Finset.Nat
import CallFeed.Number.Rounding
import CallFeed.Words

namespace CallFeed.Words

open CallFeed.Number (ceilDiv ceilDiv_le_iff le_ceilDiv_mul ceilDiv_mul_lt)

/-- two words as one of 64 bits, the first above the second -/
def wide (w again : UInt32) : Nat := w.toNat * UInt32.size + again.toNat

/-- of `n` equal shares of all words of 64 bits, the one that two words lie in -/
def share (n : Nat) (w again : UInt32) : Nat := wide w again * n / UInt64.size

/-- **A draw gives the share that its two words lie in**: where it does not look at the second, that makes no
difference. -/
theorem drawValue_eq_share {n : Nat} (h : n ≤ UInt32.size) (w again : UInt32) :
    drawValue n w again = share n w again := by
  have hagain : again.toNat * n ≤ 4294967295 * n := by
    have := again.toNat_lt
    exact Nat.mul_le_mul_right n (by omega)
  have hwide : wide w again * n = w.toNat * n * UInt32.size + again.toNat * n := by
    rw [wide, Nat.add_mul, Nat.mul_right_comm]
  rw [share, hwide]
  simp only [drawValue, drawsAgain, Bool.and_eq_true, decide_eq_true_eq, UInt32.size, UInt64.size] at h ⊢
  -- from here on the two products are just numbers
  generalize w.toNat * n = p
  generalize again.toNat * n = q at hagain ⊢
  by_cases hcarry : 4294967296 ≤ p % 4294967296 + q / 4294967296
  · have hagain : 4294967296 - n < p % 4294967296 := by omega
    rw [if_pos ⟨hagain, hcarry⟩]
    omega
  · rw [if_neg fun hboth => hcarry hboth.2]
    omega

theorem wide_injective : Function.Injective fun p : UInt32 × UInt32 => wide p.1 p.2 := by
  rintro ⟨w, again⟩ ⟨w', again'⟩ h
  have hagain := again.toNat_lt
  have hagain' := again'.toNat_lt
  simp only [wide, UInt32.size] at h
  have hfirst : w.toNat = w'.toNat := by omega
  have hsecond : again.toNat = again'.toNat := by omega
  rw [UInt32.toNat_inj.1 hfirst, UInt32.toNat_inj.1 hsecond]

theorem exists_wide {x : Nat} (h : x < UInt64.size) : ∃ w again, wide w again = x := by
  refine ⟨UInt32.ofNat (x / UInt32.size), UInt32.ofNat (x % UInt32.size), ?_⟩
  have hw : x / UInt32.size < UInt32.size := by
    simp only [UInt32.size, UInt64.size] at h ⊢
    omega
  rw [wide, UInt32.toNat_ofNat_of_lt' hw, UInt32.toNat_ofNat_of_lt' (Nat.mod_lt x (by decide))]
  exact Nat.div_add_mod' x UInt32.size

/-! ## How many words a value has -/

/-- **A share starts at the least word not below its number's part of all**, and ends where the next one starts. -/
theorem share_eq_iff {n v x : Nat} (hn : 0 < n) :
    x * n / UInt64.size = v ↔ ceilDiv (v * UInt64.size) n ≤ x ∧ x < ceilDiv ((v + 1) * UInt64.size) n := by
  have hpos : 0 < UInt64.size := by decide
  rw [Nat.div_eq_iff hpos, ← Nat.not_le, ceilDiv_le_iff hn, ceilDiv_le_iff hn, Nat.not_le, Nat.add_mul, Nat.one_mul]
  omega

/-- the pairs of words that a draw of `n` values makes this value of -/
def pairs (n v : Nat) : Set (UInt32 × UInt32) := {p | drawValue n p.1 p.2 = v}

theorem ncard_pairs_eq {n v : Nat} (hn : 0 < n) (h : n ≤ UInt32.size) (hv : v < n) :
    (pairs n v).ncard = ceilDiv ((v + 1) * UInt64.size) n - ceilDiv (v * UInt64.size) n := by
  have hend : ceilDiv ((v + 1) * UInt64.size) n ≤ UInt64.size := by
    rw [ceilDiv_le_iff hn, Nat.mul_comm]
    exact Nat.mul_le_mul_left _ hv
  have himage : (fun p : UInt32 × UInt32 => wide p.1 p.2) '' pairs n v =
      (Finset.Ico (ceilDiv (v * UInt64.size) n) (ceilDiv ((v + 1) * UInt64.size) n) : Set Nat) := by
    ext x
    rw [Finset.coe_Ico, Set.mem_Ico, ← share_eq_iff hn]
    constructor
    · rintro ⟨p, hp, rfl⟩
      exact (drawValue_eq_share h p.1 p.2).symm.trans hp
    · intro hx
      obtain ⟨w, again, rfl⟩ := exists_wide (Nat.lt_of_lt_of_le ((share_eq_iff hn).1 hx).2 hend)
      exact ⟨(w, again), (drawValue_eq_share h w again).trans hx, rfl⟩
  rw [← Set.ncard_image_of_injective _ wide_injective, himage, Set.ncard_coe_finset, Nat.card_Ico]

/-- the steps of a quotient rounded up are as long as the quotient of one step, rounded down or up -/
theorem ceilDiv_step {n : Nat} (hn : 0 < n) (total v : Nat) :
    ceilDiv ((v + 1) * total) n - ceilDiv (v * total) n = total / n ∨
      ceilDiv ((v + 1) * total) n - ceilDiv (v * total) n = ceilDiv total n := by
  have hstart := le_ceilDiv_mul (v * total) hn
  have hstart' := ceilDiv_mul_lt (v * total) hn
  have hend := le_ceilDiv_mul ((v + 1) * total) hn
  have hend' := ceilDiv_mul_lt ((v + 1) * total) hn
  have hup := le_ceilDiv_mul total hn
  have hup' := ceilDiv_mul_lt total hn
  have hdown := Nat.div_mul_le_self total n
  have hdown' : total < total / n * n + n := Nat.lt_div_mul_add hn
  generalize ceilDiv (v * total) n = a at *
  generalize ceilDiv ((v + 1) * total) n = b at *
  generalize ceilDiv total n = c at *
  generalize total / n = q at *
  rw [Nat.add_mul, Nat.one_mul] at hend hend'
  -- a factor that is smaller after multiplying with `n` is smaller
  have hleast : q + a ≤ b := by
    refine Nat.le_of_lt_succ (Nat.lt_of_mul_lt_mul_right (a := n) ?_)
    rw [Nat.succ_mul, Nat.add_mul]
    omega
  have hmost : b ≤ c + a := by
    refine Nat.le_of_lt_succ (Nat.lt_of_mul_lt_mul_right (a := n) ?_)
    rw [Nat.succ_mul, Nat.add_mul]
    omega
  have hnear : c ≤ q + 1 := by
    refine Nat.le_of_lt_succ (Nat.lt_of_mul_lt_mul_right (a := n) ?_)
    rw [Nat.succ_mul, Nat.succ_mul]
    omega
  omega

/-- **Every value has as many pairs of words as any other, or one more.** -/
theorem ncard_pairs {n v : Nat} (hn : 0 < n) (h : n ≤ UInt32.size) (hv : v < n) :
    (pairs n v).ncard = UInt64.size / n ∨ (pairs n v).ncard = ceilDiv UInt64.size n := by
  rw [ncard_pairs_eq hn h hv]
  exact ceilDiv_step hn _ _

end CallFeed.Words
