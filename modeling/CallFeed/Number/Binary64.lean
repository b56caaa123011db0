/-
Binary64 numbers, exactly.

A finite number is `mantissa * 2 ^ exponent` with a sign. `ofRatio` rounds a quotient of naturals to the nearest of
them, a tie to the even mantissa, and every operation here is exact arithmetic followed by one such rounding, so no
machine float is involved.

- `Binary64.bits`: the 64 bits of a number;
- `Binary64.ofRatio_zero`: a zero keeps the sign it is given;
- `Binary64.places`: the decimal text with a fixed number of places, of the exact value, a half to the even digit.
-/
import CallFeed.Number.Power
import CallFeed.Number.Rounding
import CallFeed.Text.Numeral

namespace CallFeed.Number

open CallFeed.Text (decimal paddedHex)

/-- a binary64 number; a finite one has a mantissa below `2 ^ 53` and an exponent from -1074 to 971, and its mantissa
reaches `2 ^ 52` unless the exponent is the least -/
inductive Binary64 where
  | nan
  | infinite (negative : Bool)
  | finite (negative : Bool) (mantissa : Nat) (exponent : Int)
deriving DecidableEq, Repr

namespace Binary64

/-- the largest `k` with `2 ^ k ≤ num / den`, both positive -/
def log2Ratio (num den : Nat) : Int :=
  let k : Int := (num.log2 : Int) - den.log2
  if den * twoTo k.toNat ≤ num * twoTo (-k).toNat then k else k - 1

/-- the number nearest to `num / den` -/
def ofRatio (negative : Bool) (num den : Nat) : Binary64 :=
  if num = 0 then .finite negative 0 (-1074)
  else
    let e := max (-1074) (log2Ratio num den - 52)
    let m := roundHalfEven (num * twoTo (-e).toNat) (den * twoTo e.toNat)
    let (m, e) := if m = twoTo 53 then (twoTo 52, e + 1) else (m, e)
    if 971 < e then .infinite negative else .finite negative m e

/-- the number nearest to a natural -/
def ofNat (n : Nat) : Binary64 := ofRatio false n 1

/-- the size of a finite number as a quotient of naturals -/
def ratio (mantissa : Nat) (exponent : Int) : Nat × Nat := (mantissa * twoTo exponent.toNat, twoTo (-exponent).toNat)

/-- the sum of two numbers that are not negative -/
def add : Binary64 → Binary64 → Binary64
  | .finite _ m e, .finite _ m' e' =>
    let (a, b) := ratio m e
    let (c, d) := ratio m' e'
    ofRatio false (a * d + c * b) (b * d)
  | .nan, _ => .nan
  | _, .nan => .nan
  | _, _ => .infinite false

/-- the quotient of two finite numbers that are not negative, the second positive -/
def div : Binary64 → Binary64 → Binary64
  | .finite _ m e, .finite _ m' e' =>
    let (a, b) := ratio m e
    let (c, d) := ratio m' e'
    if c = 0 then (if a = 0 then .nan else .infinite false) else ofRatio false (a * d) (b * c)
  | _, _ => .nan

/-- above zero -/
def positive : Binary64 → Bool
  | .finite negative m _ => !negative && m != 0
  | .infinite negative => !negative
  | .nan => false

/-- equal to zero, of either sign -/
def isZero : Binary64 → Bool
  | .finite _ m _ => m == 0
  | _ => false

/-- the 64 bits of a number: sign, eleven of exponent, fifty-two of fraction -/
def bits : Binary64 → Nat
  | .nan => 0x7FF8000000000000
  | .infinite negative => sign negative + 0x7FF0000000000000
  | .finite negative m e =>
    sign negative + (if m < twoTo 52 then m else (e + 1075).toNat * twoTo 52 + (m - twoTo 52))
where
  sign (negative : Bool) : Nat := if negative then twoTo 63 else 0

/-- the bits in sixteen hexadecimal digits -/
def bitsText (x : Binary64) : Text := paddedHex 16 x.bits

/-- the number in decimal with `n` places, rounded from its exact value, a half to the even digit -/
def places (n : Nat) : Binary64 → Text
  | .nan => "NaN".toList
  | .infinite negative => signText negative ++ "inf".toList
  | .finite negative m e =>
    let (num, den) := ratio m e
    let scaled := roundHalfEven (num * tenTo n) den
    let whole := decimal (scaled / tenTo n)
    signText negative ++ if n = 0 then whole else whole ++ '.' :: CallFeed.Text.padded n (scaled % tenTo n)
where
  signText (negative : Bool) : Text := if negative then ['-'] else []

/-- the nearest natural up to `max`, a half away from zero; nothing below zero, and zero for a number that is none -/
def toNatSaturating (max : Nat) : Binary64 → Nat
  | .nan => 0
  | .infinite negative => if negative then 0 else max
  | .finite negative m e =>
    let (num, den) := ratio m e
    if negative then 0 else min max ((2 * num + den) / (2 * den))

theorem ofRatio_zero (negative : Bool) (den : Nat) : ofRatio negative 0 den = .finite negative 0 (-1074) := by
  simp [ofRatio]

example : (ofNat 1).bits = 0x3FF0000000000000 := by decide +kernel

example : (ofRatio false 1 10).bits = 0x3FB999999999999A := by decide +kernel

example : (ofNat (twoTo 64 - 1)).bits = 0x43F0000000000000 := by decide +kernel

example : (ofRatio false 1 (twoTo 1075)).bits = 0 ∧ (ofRatio false 3 (twoTo 1075)).bits = 2 := by decide +kernel

example : (ofRatio false 1 4).places 1 = "0.2".toList ∧ (ofRatio false 3 4).places 1 = "0.8".toList := by decide +kernel

end Binary64

end CallFeed.Number
