/-
From what stands under the keys to settings.

A count is taken from an integer that is not negative, a float rounded to the nearest, a truth value or a text that spells
one of these; a truth value from a number, which is false only when it is zero, or a text; a text from any single value.
What does not fit is refused with what was found and what was wanted.

- `TypeFault.message`: the words for it;
- `Entries.settings`: the settings, the defaults standing where there is no entry.
-/
import CallFeed.Settings
import CallFeed.Settings.Entry
import CallFeed.Number.Shortest
import CallFeed.Text.Lowercase

namespace CallFeed.Settings

open CallFeed.Text CallFeed.Number

/-- what was found under a key -/
inductive Found where
  | negative (n : Int)
  | tooLarge (n : Nat)
  | text (t : Text)
  | table
  | sequence
deriving DecidableEq, Repr

def Found.message : Found → Text
  | negative n => "64-bit integer `-".toList ++ decimal n.natAbs ++ ['`']
  | tooLarge n => "64-bit unsigned integer `".toList ++ decimal n ++ ['`']
  | text t => "string ".toList ++ quoted t
  | table => "map".toList
  | sequence => "sequence".toList

/-- what was wanted under a key -/
inductive Wanted where
  | notNegative
  | integer
  | bits (n : Nat)
  | truth
  | text
deriving DecidableEq, Repr

def Wanted.message : Wanted → Text
  | notNegative => "an unsigned 64 bit or less integer".toList
  | integer => "an integer".toList
  | bits n => "an unsigned ".toList ++ decimal n ++ " bit integer".toList
  | truth => "a boolean".toList
  | text => "a string".toList

/-- a value that does not fit its field -/
structure TypeFault where
  field : Field
  found : Found
  wanted : Wanted
  /-- where it was given, as far as that is said -/
  origin : Option Origin
deriving DecidableEq, Repr

def TypeFault.message (f : TypeFault) : Text :=
  "invalid type: ".toList ++ f.found.message ++ ", expected ".toList ++ f.wanted.message ++ " for key `".toList ++
    f.field.key ++ ['`'] ++
    match f.origin with
    | none => []
    | some o => " in ".toList ++ o.text

/-- the texts that spell true, other than a digit -/
def trueWords : List Text := ["true".toList, "on".toList, "yes".toList]

/-- the texts that spell false, other than a digit -/
def falseWords : List Text := ["false".toList, "off".toList, "no".toList]

/-- the count that a text spells -/
def countOfText? (t : Text) : Option Nat :=
  if trueWords.contains (lower t) then some 1
  else if falseWords.contains (lower t) then some 0
  else (readUnsigned maxCount t).toOption

/-- the truth value that a text in small letters spells -/
def truthOfText? (t : Text) : Option Bool :=
  if t = ['1'] ∨ t ∈ trueWords then some true
  else if t = ['0'] ∨ t ∈ falseWords then some false
  else none

/-- a count of 64 bits -/
def countOf : Scalar → Except (Found × Wanted) Nat
  | .integer n => if n < 0 then .error (.negative n, .notNegative) else .ok n.toNat
  | .float x => .ok (x.toNatSaturating maxCount)
  | .boolean b => .ok b.toNat
  | .text t =>
    match countOfText? t with
    | some n => .ok n
    | none => .error (.text t, .integer)

/-- a truth value -/
def truthOf : Scalar → Except (Found × Wanted) Bool
  | .integer n => .ok (n != 0)
  | .float x => .ok (!x.isZero)
  | .boolean b => .ok b
  | .text t =>
    match truthOfText? (lower t) with
    | some b => .ok b
    | none => .error (.text (lower t), .truth)

/-- a text -/
def textOf : Scalar → Text
  | .integer n => if n < 0 then '-' :: decimal n.natAbs else decimal n.natAbs
  | .float x => x.text
  | .boolean b => if b then "true".toList else "false".toList
  | .text t => t

/-- what a single value of an entry comes to -/
def Entry.convert {α : Type} (f : Field) (wanted : Wanted) (of : Scalar → Except (Found × Wanted) α) :
    Entry → Except TypeFault α
  | .scalar s origin => (of s).mapError fun p => ⟨f, p.1, p.2, some origin⟩
  | .table => .error ⟨f, .table, wanted, none⟩
  | .sequence origin => .error ⟨f, .sequence, wanted, origin⟩

namespace Entries

/-- what a field's entry comes to, or a default -/
def valueD {α : Type} (es : Entries) (f : Field) (wanted : Wanted) (of : Scalar → Except (Found × Wanted) α)
    (default : α) : Except TypeFault α :=
  match es f with
  | none => .ok default
  | some e => e.convert f wanted of

/-- a count of at most so many bits, or a default -/
def countD (es : Entries) (f : Field) (bits default : Nat) : Except TypeFault Nat :=
  match es.valueD f .integer countOf default with
  | .error e => .error e
  | .ok n => if n < Number.twoTo bits then .ok n else .error ⟨f, .tooLarge n, .bits bits, none⟩

def textD (es : Entries) (f : Field) (default : Text) : Except TypeFault Text :=
  es.valueD f .text (fun s => .ok (textOf s)) default

/-- the settings that the entries come to -/
def settings (es : Entries) : Except TypeFault Settings := do
  let d : Settings := {}
  let logLevel ← es.textD .logLevel d.logLevel
  let host ← es.textD .host d.host
  let port ← es.countD .port 16 d.port.toNat
  let backlog ← es.countD .backlog 32 d.backlog.toNat
  let rate ← es.countD .rate 64 d.rate.toNat
  let durationSecs ← es.countD .durationSecs 64 d.durationSecs.toNat
  let consistentTenants ← es.valueD .consistentTenants .truth truthOf d.consistentTenants
  return {
    logLevel := logLevel
    host := host
    port := .ofNat port
    backlog := .ofNat backlog
    rate := .ofNat rate
    durationSecs := .ofNat durationSecs
    consistentTenants := consistentTenants }

end Entries

end CallFeed.Settings
