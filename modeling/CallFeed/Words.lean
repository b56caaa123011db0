/-
Endless sources of 32-bit words, and draws from them.

A source is read by position, so how far a reader has come is a number. Two sources are given here: a list repeated for
ever and the high halves of a 64-bit affine generator, whose n-th state is found without the ones before it.

- `Affine.repeated_apply`: repeating an affine map by halving is applying it one time after another;
- `drawValue_lt`: a draw of `n` values is below `n`, also when the second word carries into it;
- `drawWords_le`: a draw takes one word or two.
-/

namespace CallFeed

/-- the word at each position -/
abbrev Words := Nat → UInt32

namespace Words

/-- the words of a list, over and over; zeros if there are none -/
def cycle (ws : Array UInt32) : Words := fun n => ws[n % ws.size]?.getD 0

end Words

/-- the map `x ↦ x * mul + add` on 64-bit words -/
structure Affine where
  mul : UInt64
  add : UInt64
deriving DecidableEq, Repr

namespace Affine

def apply (f : Affine) (x : UInt64) : UInt64 := x * f.mul + f.add

/-- first `f`, then `g` -/
def andThen (f g : Affine) : Affine := ⟨f.mul * g.mul, f.add * g.mul + g.add⟩

/-- `f`, `n` times -/
def repeated (f : Affine) (n : Nat) : Affine :=
  if n = 0 then ⟨1, 0⟩
  else
    let half := repeated f (n / 2)
    if n % 2 = 0 then half.andThen half else (half.andThen half).andThen f
termination_by n

theorem andThen_apply (f g : Affine) (x : UInt64) : (f.andThen g).apply x = g.apply (f.apply x) := by
  simp only [andThen, apply]
  grind

theorem repeated_apply (f : Affine) (n : Nat) (x : UInt64) : (f.repeated n).apply x = n.repeat f.apply x := by
  have repeat_add (a b : Nat) (y : UInt64) : (a + b).repeat f.apply y = a.repeat f.apply (b.repeat f.apply y) := by
    induction a with
    | zero => simp [Nat.repeat]
    | succ a ih => rw [Nat.succ_add, Nat.repeat, Nat.repeat, ih]
  fun_induction repeated f n generalizing x with
  | case1 => simp [apply, Nat.repeat]
  | case2 n hn half heven ih =>
    rw [andThen_apply, ih, ih, ← repeat_add, show n / 2 + n / 2 = n by omega]
  | case3 n hn half hodd ih =>
    rw [andThen_apply, andThen_apply, ih, ih, ← repeat_add]
    have : n = 1 + (n / 2 + n / 2) := by omega
    conv => rhs; rw [this, repeat_add]
    rfl

end Affine

namespace Words

/-- the generator's step -/
def step : Affine := ⟨6364136223846793005, 1442695040888963407⟩

/-- the high halves of the states that follow a seed -/
def seeded (seed : UInt64) : Words := fun n => ((step.repeated (n + 1)).apply seed >>> 32).toUInt32

/-- whether a draw of `n` values looks at a second word, for the carry into the first word's value -/
def drawsAgain (n : Nat) (w : UInt32) : Bool := decide (UInt32.size - n < w.toNat * n % UInt32.size)

/-- the value of a draw of `n` values: the high half of `w * n`, and one more if its low half and the high half of
`again * n` carry -/
def drawValue (n : Nat) (w again : UInt32) : Nat :=
  let p := w.toNat * n
  if drawsAgain n w && decide (UInt32.size ≤ p % UInt32.size + again.toNat * n / UInt32.size) then p / UInt32.size + 1 else p / UInt32.size

/-- the words a draw takes -/
def drawWords (n : Nat) (w : UInt32) : Nat := if drawsAgain n w then 2 else 1

theorem drawValue_lt {n : Nat} (h : 0 < n) (w again : UInt32) : drawValue n w again < n := by
  have hw : w.toNat ≤ 4294967295 := by have := w.toNat_lt; omega
  have hp : w.toNat * n ≤ 4294967295 * n := Nat.mul_le_mul_right n hw
  simp only [drawValue, drawsAgain, Bool.and_eq_true, decide_eq_true_eq, UInt32.size]
  split <;> omega

theorem drawWords_le (n : Nat) (w : UInt32) : 1 ≤ drawWords n w ∧ drawWords n w ≤ 2 := by
  unfold drawWords
  split <;> omega

/-- a draw of `n` values at a position: the value, and the position after it -/
def draw (ws : Words) (n : Nat) (h : 0 < n) (pos : Nat) : Fin n × Nat :=
  (⟨drawValue n (ws pos) (ws (pos + 1)), drawValue_lt h _ _⟩, pos + drawWords n (ws pos))

end Words

end CallFeed
