/-
The shortest decimal of a binary64 number: the fewest digits that no other number of the format is nearer to, and of
those the decimal nearest to the value. It is written out in full, without an exponent and without a point when there
is nothing after it.

- `readsBack`: a decimal lies among the reals that round to the number;
- `shortest_readsBack`: what is chosen does.
-/
import CallFeed.Number.Binary64

namespace CallFeed.Number

open CallFeed.Text (decimal)

/-- a decimal number `digits * 10 ^ exponent` -/
structure Decimal where
  digits : Nat
  exponent : Int
deriving DecidableEq, Repr

/-- compare `a * 10 ^ i` with `n * 2 ^ j` -/
def compareScaled (a : Nat) (i : Int) (n : Nat) (j : Int) : Ordering :=
  compare (a * tenTo i.toNat * twoTo (-j).toNat) (n * twoTo j.toNat * tenTo (-i).toNat)

/-- the decimal lies among the reals that round to `m * 2 ^ e`: the ends of their interval count when `m` is even, and
the lower end is nearer at a power of two -/
def readsBack (m : Nat) (e : Int) (d : Decimal) : Bool :=
  let low := if m = twoTo 52 ∧ -1074 < e then 4 * m - 1 else 4 * m - 2
  let high := 4 * m + 2
  let ends := m % 2 == 0
  let atLow := compareScaled d.digits d.exponent low (e - 2)
  let atHigh := compareScaled d.digits d.exponent high (e - 2)
  (atLow == .gt || (ends && atLow == .eq)) && (atHigh == .lt || (ends && atHigh == .eq))

/-- the least `k` with `m * 2 ^ e < 10 ^ k`, searched upwards from `k` -/
def decimalScale (m : Nat) (e : Int) : Nat → Int → Int
  | 0, k => k
  | steps + 1, k => if compareScaled 1 k m e == .gt then k else decimalScale m e steps (k + 1)

/-- the two neighbours of `m * 2 ^ e` on the grid of spacing `10 ^ i` that read back, the nearer first -/
def neighbours (m : Nat) (e i : Int) : List Decimal :=
  let num := m * twoTo e.toNat * tenTo (-i).toNat
  let den := twoTo (-e).toNat * tenTo i.toNat
  let q := num / den
  let below : Decimal := ⟨q, i⟩
  let above : Decimal := ⟨q + 1, i⟩
  let order := if 2 * (num % den) < den then [below, above] else [above, below]
  order.filter (readsBack m e)

/-- the shortest decimal of `m * 2 ^ e`, `m` positive; the exact value where seventeen digits did not do -/
def shortest (m : Nat) (e : Int) : Decimal :=
  let estimate : Int := ((m.log2 : Int) + e) * 30103 / 100000 - 1
  let k := decimalScale m e 4 estimate
  match (List.range 18).findSome? fun (n : Nat) => (neighbours m e (k - n)).head? with
  | some d => d
  | none => if 0 ≤ e then ⟨m * twoTo e.toNat, 0⟩ else ⟨m * tenTo (-e).toNat / twoTo (-e).toNat, e⟩

/-- a decimal written out in full -/
def Decimal.text (d : Decimal) : Text :=
  let ds := decimal d.digits
  if 0 ≤ d.exponent then ds ++ List.replicate d.exponent.toNat '0'
  else
    let n := (-d.exponent).toNat
    let ds := List.replicate (n + 1 - ds.length) '0' ++ ds
    ds.take (ds.length - n) ++ '.' :: ds.drop (ds.length - n)

/-- a binary64 number in the fewest digits that read back -/
def Binary64.text : Binary64 → Text
  | .nan => "NaN".toList
  | .infinite negative => (if negative then ['-'] else []) ++ "inf".toList
  | .finite negative m e => (if negative then ['-'] else []) ++ if m = 0 then ['0'] else (shortest m e).text

theorem shortest_readsBack {m : Nat} {e : Int} {n : Nat} {d : Decimal} (k : Int)
    (h : (neighbours m e (k - n)).head? = some d) : readsBack m e d = true := by
  have hd := List.mem_of_mem_head? h
  exact (List.mem_filter.1 hd).2

example : (Binary64.ofRatio false 1 10).text = "0.1".toList := by decide +kernel

example : (Binary64.ofRatio false 3 (twoTo 1074)).text.drop 320 = "000015".toList := by decide +kernel

example : (Binary64.ofNat (tenTo 23)).text = "100000000000000000000000".toList := by decide +kernel

example : (Binary64.ofRatio false 1 (tenTo 7)).text = "0.0000001".toList := by decide +kernel

example : (Binary64.ofRatio true 5 2).text = "-2.5".toList ∧ (Binary64.ofNat 12).text = "12".toList := by decide +kernel

end CallFeed.Number
