/-
TOML numbers: integers in four bases, and floats.

A token is a number by its first digits and what follows them. Only then are its other characters looked at: in a decimal
integer that has an underscore they may be anything, and one that is no digit is a fault of the number, as it is when the
number is too large.

- `separated`: underscores may stand only between digits;
- `number?`: the number of a token, or the reason why it cannot be held.
-/
import CallFeed.Toml.Value
import CallFeed.Text.Parts

namespace CallFeed.Toml

open CallFeed.Number CallFeed.Text

/-- a digit in a base -/
def isDigitIn (base : Nat) (c : Char) : Bool := (digit? base c).isSome

/-- whether each underscore stands between digits; a sign may come before the first -/
def separated (isDigit : Char → Bool) (t : Text) : Bool :=
  let runs := parts '_' t
  runs.length == 1 ||
    (runs.all (· ≠ []) && runs.tail.all (fun run => run.head?.any isDigit) &&
      runs.dropLast.all (fun run => run.length == 1 || run.getLast?.any isDigit))

/-- a text without its underscores -/
def withoutUnderscores (t : Text) : Text := t.filter (· ≠ '_')

/-- a sign in front, and what follows it -/
def splitSign : Text → Option Char × Text
  | '+' :: t => (some '+', t)
  | '-' :: t => (some '-', t)
  | t => (none, t)

/-- whether a sign is a minus -/
def isMinus (sign : Option Char) : Bool := sign == some '-'

/-! ## Integers -/

/-- the value of an integer of 64 bits with a sign -/
def integerValue (base : Nat) (t : Text) : Value :=
  match readSigned base signedBound t with
  | .ok n => .scalar (.integer n)
  | .error f => .beyond (.integer f)

/-- an integer in another base, after the mark of the base; there may be no digits, which is a fault of the number -/
def marked? (base : Nat) (t : Text) : Option Value :=
  if separated (isDigitIn 16) t && (withoutUnderscores t).all (isDigitIn base) then
    some (integerValue base (withoutUnderscores t))
  else none

/-- whether a zero leads other characters -/
def leadsZero (t : Text) : Bool := t.head? == some '0' && t.length != 1

/-- a decimal integer: a sign, digits, and what comes after an underscore -/
def plain? (t : Text) : Option Value :=
  let body := (splitSign t).2
  let whole := body ≠ [] && (body.dropWhile Char.isDigit).head?.all (· == '_')
  if whole && !leadsZero body && separated (isDigitIn 16) t then some (integerValue 10 (withoutUnderscores t)) else none

/-! ## Floats -/

/-- decimal digits, of which there are some -/
def digits? (t : Text) : Option Text := if t ≠ [] ∧ t.all Char.isDigit then some t else none

/-- the digits of a whole part: no zero leads others -/
def whole? (t : Text) : Option Text := if leadsZero t then none else digits? t

/-- the natural of decimal digits -/
def natOf (digits : Text) : Nat := digits.foldl (fun n c => n * 10 + (c.toNat - 48)) 0

/-- the exponent of a float, after its letter -/
def exponent? (t : Text) : Option Int :=
  (digits? (splitSign t).2).map fun ds =>
    if isMinus (splitSign t).1 then -Int.ofNat (natOf ds) else Int.ofNat (natOf ds)

/-- the binary64 number nearest to `digits * 10 ^ exponent`; beyond these exponents all are infinite or zero -/
def nearest (negative : Bool) (digits : Text) (exponent : Int) : Binary64 :=
  let m := natOf digits
  let size := exponent + (decimal m).length
  if m = 0 then .ofRatio negative 0 1
  else if 310 < size then .infinite negative
  else if size < -330 then .ofRatio negative 0 1
  else .ofRatio negative (m * tenTo exponent.toNat) (tenTo (-exponent).toNat)

/-- the value of a float that is finite as it is written -/
def floatValue (sign : Option Char) (digits : Text) (exponent : Int) : Value :=
  match nearest (isMinus sign) digits exponent with
  | .infinite _ => .beyond .float
  | x => .scalar (.float x)

/-- whether a letter starts an exponent -/
def isExponentLetter (c : Char) : Bool := c == 'e' || c == 'E'

/-- a float without underscores that is finite as it is written: a whole part with a fraction, or an exponent, or both -/
def unseparated? (t : Text) : Option Value := do
  let (sign, body) := splitSign t
  let mantissa := body.takeWhile fun c => !isExponentLetter c
  let exponent ← match body.dropWhile fun c => !isExponentLetter c with
    | [] => some 0
    | _ :: e => exponent? e
  match parts '.' mantissa with
  | [w] => return floatValue sign (← whole? w) exponent
  | [w, f] =>
    let fraction ← digits? f
    return floatValue sign ((← whole? w) ++ fraction) (exponent - fraction.length)
  | _ => none

/-- a float that is finite as it is written -/
def finite? (t : Text) : Option Value :=
  if separated Char.isDigit t then unseparated? (withoutUnderscores t) else none

/-- an infinity or no number at all, with any sign -/
def special? (t : Text) : Option Value :=
  let (sign, body) := splitSign t
  if body = "inf".toList then some (.scalar (.float (.infinite (isMinus sign))))
  else if body = "nan".toList then some (.scalar (.float .nan))
  else none

/-! ## Tokens -/

/-- whether a character after the first digits makes a float of a number -/
def marksFloat (c : Char) : Bool := c == '.' || isExponentLetter c

/-- the number of a token -/
def number? : Text → Option Value
  | '0' :: 'x' :: t => marked? 16 t
  | '0' :: 'o' :: t => marked? 8 t
  | '0' :: 'b' :: t => marked? 2 t
  | t =>
    if ((splitSign t).2.dropWhile Char.isDigit).any marksFloat then finite? t else (plain? t).or (special? t)

end CallFeed.Toml
