/-
Sets of characters given by ranges of code points.

- `inRanges rs c`: `c` lies in one of the ranges, both ends included;
- `inRanges_eq_false`: ranges that start beyond `c` do not hold it.
-/

namespace CallFeed.Text

/-- `c` lies in one of the ranges, both ends included -/
def inRanges (rs : List (Nat × Nat)) (c : Char) : Bool :=
  rs.any fun r => decide (r.1 ≤ c.toNat) && decide (c.toNat ≤ r.2)

theorem inRanges_iff (rs : List (Nat × Nat)) (c : Char) :
    inRanges rs c = true ↔ ∃ r ∈ rs, r.1 ≤ c.toNat ∧ c.toNat ≤ r.2 := by
  simp [inRanges]

theorem inRanges_cons (r : Nat × Nat) (rs : List (Nat × Nat)) (c : Char) :
    inRanges (r :: rs) c = ((decide (r.1 ≤ c.toNat) && decide (c.toNat ≤ r.2)) || inRanges rs c) := rfl

/-- ranges that start beyond `c` do not hold it -/
theorem inRanges_eq_false {rs : List (Nat × Nat)} {n : Nat} (hrs : ∀ r ∈ rs, n ≤ r.1) {c : Char} (hc : c.toNat < n) :
    inRanges rs c = false := by
  rw [Bool.eq_false_iff, ne_eq, inRanges_iff]
  rintro ⟨r, hr, h1, _⟩
  have := hrs r hr
  omega

end CallFeed.Text
