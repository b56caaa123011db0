/-
An event's line read back. The content of a field is what stands between the first of its opening tags and the first of
its closing tags.

- `between?`: the content of a field;
- `Fields.ofLine?`: all fields of a line;
- `Fields.text`: the element that has these fields, so a line is well formed when it is the text of its own fields.
-/
import CallFeed.Event.Factory

namespace CallFeed.Feed

open CallFeed.Text

/-- the place where a text first comes in another -/
def place? (needle : Text) : Text → Option Nat
  | [] => if needle = [] then some 0 else none
  | c :: t => if needle.isPrefixOf (c :: t) then some 0 else (place? needle t).map (· + 1)

def openTag (tag : Text) : Text := '<' :: tag ++ ['>']

def closeTag (tag : Text) : Text := '<' :: '/' :: tag ++ ['>']

/-- the text between the first opening tag and the first closing tag -/
def between? (tag line : Text) : Option Text :=
  match place? (openTag tag) line, place? (closeTag tag) line with
  | some i, some j =>
    if i + (openTag tag).length ≤ j then some ((line.take j).drop (i + (openTag tag).length)) else none
  | _, _ => none

/-- what follows a text in front of another -/
def afterPrefix? (front t : Text) : Option Text := if front.isPrefixOf t then some (t.drop front.length) else none

theorem afterPrefix?_append (front t : Text) : afterPrefix? front (front ++ t) = some t := by
  have hp : front.isPrefixOf (front ++ t) = true := List.isPrefixOf_iff_prefix.2 (List.prefix_append front t)
  rw [afterPrefix?, if_pos hp, List.drop_left]

/-- a number in decimal digits -/
def number? (max : Nat) (t : Text) : Option Nat :=
  if t = [] then none else (readDigits 10 max .tooLarge 0 t).toOption

/-- an address: the extension goes up to the first at sign -/
def uri? (t : Text) : Option SipUri := do
  let body ← afterPrefix? "sip:".toList t
  let extension ← number? 65535 (body.takeWhile (· != '@'))
  match body.dropWhile (· != '@') with
  | _ :: domain => some ⟨extension, domain⟩
  | [] => none

def state? (t : Text) : Option CallState := CallState.all.find? fun s => s.name == t

/-- the fields of an event's line -/
structure Fields where
  callId : Nat
  caller : SipUri
  callee : SipUri
  state : CallState
  direction : Text
  tenantId : Text
  timestamp : Text
deriving DecidableEq, Repr

namespace Fields

def ofLine? (line : Text) : Option Fields := do
  return {
    callId := ← number? lastCallId (← afterPrefix? "call-".toList (← between? "CallId".toList line))
    caller := ← uri? (← between? "CallerUri".toList line)
    callee := ← uri? (← between? "CalleeUri".toList line)
    state := ← state? (← between? "State".toList line)
    direction := ← between? "Direction".toList line
    tenantId := ← between? "TenantId".toList line
    timestamp := ← between? "Timestamp".toList line }

/-- the element of these fields -/
def text (f : Fields) : Text :=
  element "CallStateEvent".toList
    (element "CallId".toList ("call-".toList ++ decimal f.callId) ++ element "CallerUri".toList f.caller.text ++
      element "CalleeUri".toList f.callee.text ++ element "State".toList f.state.name ++
      element "Direction".toList f.direction ++ element "TenantId".toList f.tenantId ++
      element "Timestamp".toList f.timestamp)

/-- an extension that can be drawn -/
def isExtension (n : Nat) : Bool := decide (firstExtension ≤ n) && decide (n < firstExtension + extensionCount)

/-- values as they are drawn -/
def inRange (f : Fields) : Bool :=
  isExtension f.caller.extension && isExtension f.callee.extension && f.caller.domain == f.callee.domain &&
    tenants.contains f.caller.domain && f.direction == Event.direction && tenants.contains f.tenantId

end Fields

example : between? ['b'] "<a><b>x</b></a>".toList = some ['x'] := by decide

end CallFeed.Feed
