/-
Directives, which say for some log lines how much they must matter to be shown.

A directive is a threshold alone, or the start of a target's name with more after it: the name of a span and of a field in
brackets, an equals sign and a threshold. Each of these may be left out.

- `Directive.ofText`: the directive of a text, or what is wrong with it;
- `Directive.applies`: the lines that it is about.
-/
import CallFeed.Log
import CallFeed.Text.Alphanumeric
import CallFeed.Text.Blank
import CallFeed.Text.Quoted

namespace CallFeed

open CallFeed.Text

/-- the least important level shown, if any is -/
abbrev Threshold := Option Level

namespace Threshold

/-- the thresholds by their numbers -/
def all : List Threshold := [none, some .error, some .warn, some .info, some .debug, some .trace]

def name : Threshold → Text
  | none => "off".toList
  | some l => l.name.toList.map Char.toLower

/-- the threshold of a number, or of a name in small or capital letters -/
def ofText? (t : Text) : Option Threshold :=
  match readUnsigned maxCount t with
  | .ok n => all[n]?
  | .error _ => all.find? fun h => h.name == t.map Char.toLower

def shows (h : Threshold) (l : Level) : Bool := h.any fun least => decide (l.rank ≤ least.rank)

theorem ofText?_name (h : Threshold) : ofText? h.name = some h := by
  cases h with
  | none => decide
  | some l => cases l <;> decide

end Threshold

/-- what is wrong with a directive -/
inductive DirectiveFault where
  | form
  | threshold
deriving DecidableEq, Repr

def DirectiveFault.message : DirectiveFault → Text
  | form => "invalid filter directive".toList
  | threshold =>
    "error parsing level filter: expected one of ".toList ++ Threshold.all.flatMap (fun h => quoted h.name ++ [',', ' ']) ++
      "or a number 0-5".toList

structure Directive where
  /-- how the target's name starts -/
  target : Text
  threshold : Threshold := some .trace
  /-- the field that lines must have -/
  field : Option Text := none
  /-- whether only lines inside of a span are meant -/
  inSpan : Bool := false
deriving DecidableEq, Repr

namespace Directive

/-- a character that a directive may start with, an opening bracket apart -/
def startsTarget (c : Char) : Bool := c == '-' || c == ':' || c == '_' || alphanumeric c

/-- a threshold after an equals sign; none is the least important one -/
def thresholdOf (t : Text) : Except DirectiveFault Threshold :=
  if t = [] then .ok (some .trace)
  else
    match Threshold.ofText? t with
    | some h => .ok h
    | none => .error .threshold

/-- how many characters come before the first that stops -/
def countUntil (stops : Char → Bool) (t : Text) : Nat := (t.takeWhile fun c => !stops c).length

/-- a directive up to a place, where a threshold may follow: places are found in the text without its outer white space, but
what is between them is taken from the text as it is -/
def closed (s : Text) (d : Directive) (place : Nat) : Except DirectiveFault Directive :=
  match (trimmed s).drop place with
  | [] => .ok d
  | '=' :: _ => (thresholdOf (s.drop (place + 1))).map fun h => { d with threshold := h }
  | _ => .error .form

/-- a directive after an opening bracket, the place of whose content is given -/
def spanned (s : Text) (d : Directive) (start : Nat) : Except DirectiveFault Directive :=
  let stop := start + countUntil (fun c => c == ']' || c == '\x7b') ((trimmed s).drop start)
  match (trimmed s).drop stop with
  | ']' :: _ => closed s { d with inSpan := true } (stop + 1)
  | '\x7b' :: rest =>
    let size := countUntil (· == '\x7d') rest
    let field := (s.drop (stop + 1)).take size
    match rest.drop size with
    | '\x7d' :: ']' :: _ =>
      if field = [] then .error .form
      else closed s { d with field := some field, inSpan := (s.take stop).drop start ≠ [] } (stop + size + 3)
    | _ => .error .form
  | _ => .error .form

/-- the directive of a text -/
def ofText (s : Text) : Except DirectiveFault Directive :=
  match trimmed s with
  | [] => .error .form
  | '[' :: _ => spanned s { target := [] } 1
  | c :: t =>
    if !startsTarget c then .error .form
    else
      let stop := countUntil (fun c => c == '=' || c == '[') (c :: t)
      match (c :: t).drop stop with
      | [] =>
        match Threshold.ofText? s with
        | some h => .ok { target := [], threshold := h }
        | none => .ok { target := s }
      | '[' :: _ => spanned s { target := s.take stop } (stop + 1)
      | _ => closed s { target := s.take stop } stop

/-- the only field of the lines that the server logs -/
def messageField : Text := "message".toList

/-- whether a directive is about the lines of a target; the server logs inside of no span, and a field that is to have a
value counts for spans only -/
def applies (d : Directive) (target : Text) : Bool :=
  !d.inSpan && d.field.all (· == messageField) && d.target.isPrefixOf target

end Directive

example : (Directive.ofText "feed=".toList).toOption = some { target := "feed".toList } := by decide +kernel

example : (Directive.ofText "feed[\x7bmessage\x7d]=04".toList).toOption =
    some { target := "feed".toList, threshold := some .debug, field := some "message".toList } := by decide +kernel

example : (Directive.ofText "feed[call".toList).toOption = none := by decide +kernel

end CallFeed
