/-
Internet addresses, and their text.

An address is four octets, written in decimal with dots, or eight groups of sixteen bits, written in hexadecimal with
colons. A double colon in a text of groups stands for the zero groups that are missing, at least one, and the last two
groups may be written as four octets.

- `IpAddress.text`: the longest run of two zero groups or more is written as a double colon, the first of the longest;
- `IpAddress.ofText?`: the address of a text, whether or not it is written that way.
-/
import CallFeed.Text.Numeral
import CallFeed.Text.Parts

namespace CallFeed

open CallFeed.Text

inductive IpAddress where
  | v4 (octets : Vector UInt8 4)
  | v6 (groups : Vector UInt16 8)
deriving DecidableEq, Repr

namespace IpAddress

/-- four octets with dots -/
def quadText (octets : Vector UInt8 4) : Text := joined ['.'] (octets.toList.map fun b => decimal b.toNat)

/-- the two groups of four octets -/
def quadGroups (octets : Vector UInt8 4) : List UInt16 :=
  [UInt16.ofNat (octets[0].toNat * 256 + octets[1].toNat), UInt16.ofNat (octets[2].toNat * 256 + octets[3].toNat)]

/-- groups with colons -/
def groupsText (groups : List UInt16) : Text := joined [':'] (groups.map fun g => hexadecimal g.toNat)

/-- how many zero groups come next, from a place on -/
def zerosFrom (groups : List UInt16) (place : Nat) : Nat := ((groups.drop place).takeWhile (· == 0)).length

/-- the place of the first of the longest runs of zero groups -/
def longestZeros (groups : List UInt16) : Nat :=
  (List.range groups.length).foldl
    (fun best place => if zerosFrom groups best < zerosFrom groups place then place else best) 0

/-- the octets of an address of four octets that is held in groups -/
def mapped? (groups : Vector UInt16 8) : Option (Vector UInt8 4) :=
  if groups.toList.take 6 = [0, 0, 0, 0, 0, 0xFFFF] then
    some #v[UInt8.ofNat (groups[6].toNat / 256), UInt8.ofNat groups[6].toNat, UInt8.ofNat (groups[7].toNat / 256),
      UInt8.ofNat groups[7].toNat]
  else none

def text : IpAddress → Text
  | v4 octets => quadText octets
  | v6 groups =>
    match mapped? groups with
    | some octets => "::ffff:".toList ++ quadText octets
    | none =>
      let place := longestZeros groups.toList
      let zeros := zerosFrom groups.toList place
      if 2 ≤ zeros then
        groupsText (groups.toList.take place) ++ [':', ':'] ++ groupsText (groups.toList.drop (place + zeros))
      else groupsText groups.toList

def isV4 : IpAddress → Bool
  | v4 _ => true
  | v6 _ => false

/-- an octet in decimal, without leading zeros -/
def octet? (t : Text) : Option UInt8 :=
  if t = [] ∨ (t.head? = some '0' ∧ t ≠ ['0']) then none
  else (readDigits 10 255 .tooLarge 0 t).toOption.map UInt8.ofNat

/-- four octets with dots -/
def quad? (t : Text) : Option (Vector UInt8 4) :=
  match (parts '.' t).mapM octet? with
  | some [a, b, c, d] => some #v[a, b, c, d]
  | _ => none

/-- a group in one to four hexadecimal digits -/
def group? (t : Text) : Option UInt16 :=
  if t = [] ∨ 4 < t.length then none
  else (readDigits 16 65535 .tooLarge 0 t).toOption.map UInt16.ofNat

/-- the groups that parts stand for; the last part may be four octets -/
def groupsOfParts? : List Text → Option (List UInt16)
  | [] => some []
  | [last] =>
    match group? last with
    | some g => some [g]
    | none => (quad? last).map quadGroups
  | p :: ps => do return (← group? p) :: (← groupsOfParts? ps)

/-- the text before the first double colon and the text after it -/
def splitGap? : Text → Option (Text × Text)
  | ':' :: ':' :: t => some ([], t)
  | c :: t => (splitGap? t).map fun s => (c :: s.1, s.2)
  | [] => none

/-- the groups before a double colon; there are no octets among them -/
def groupsBefore? (t : Text) : Option (List UInt16) := if t = [] then some [] else (parts ':' t).mapM group?

/-- the groups after a double colon -/
def groupsAfter? (t : Text) : Option (List UInt16) := if t = [] then some [] else groupsOfParts? (parts ':' t)

/-- eight groups, some of which a double colon may stand for -/
def groups? (t : Text) : Option (List UInt16) :=
  match splitGap? t with
  | none => groupsOfParts? (parts ':' t)
  | some (before, after) => do
    let before ← groupsBefore? before
    let after ← groupsAfter? after
    if before.length + after.length < 8 then
      some (before ++ List.replicate (8 - before.length - after.length) 0 ++ after)
    else none

/-- the address of a text -/
def ofText? (t : Text) : Option IpAddress :=
  match quad? t with
  | some octets => some (v4 octets)
  | none =>
    match groups? t with
    | some groups => if h : groups.length = 8 then some (v6 ⟨groups.toArray, by simpa using h⟩) else none
    | none => none

example : (ofText? "1:0:0:2::3".toList).map text = some "1:0:0:2::3".toList := by decide +kernel

example : (ofText? "::1.2.3.4".toList).map text = some "::102:304".toList := by decide +kernel

example : (ofText? "::FFFF:1.2.3.4".toList).map text = some "::ffff:1.2.3.4".toList := by decide +kernel

example : ofText? "1:2:3:4:5:6:7::8".toList = none ∧ ofText? "01.2.3.4".toList = none := by decide +kernel

end IpAddress

/-- an address and a port -/
structure SocketAddress where
  ip : IpAddress
  port : UInt16
deriving DecidableEq, Repr

/-- the address and a port's text; groups stand in brackets -/
def SocketAddress.withPort (a : SocketAddress) (port : Text) : Text :=
  (if a.ip.isV4 then a.ip.text else '[' :: a.ip.text ++ [']']) ++ ':' :: port

def SocketAddress.text (a : SocketAddress) : Text := a.withPort (decimal a.port.toNat)

end CallFeed
