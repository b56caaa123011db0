/-
Call state events and the lines of the feed.

A feed is lines of two kinds: events, one element with seven fields, and heartbeats, which are always the same. Nothing
in a field is escaped.

- `Event.line`: an event's line, newline included;
- `Event.fields`: its seven fields, in their order;
- `heartbeat`: the heartbeat's line.
-/
import CallFeed.Time.Moment

namespace CallFeed

open CallFeed.Text (decimal)

/-- the states a call passes through -/
inductive CallState where
  | trying
  | ringing
  | confirmed
  | terminated
deriving DecidableEq, Repr

namespace CallState

def all : List CallState := [trying, ringing, confirmed, terminated]

def name : CallState → Text
  | trying => "trying".toList
  | ringing => "ringing".toList
  | confirmed => "confirmed".toList
  | terminated => "terminated".toList

def ofIndex (i : Fin all.length) : CallState := all.get i

end CallState

/-- an extension at a domain -/
structure SipUri where
  extension : Nat
  domain : Text
deriving DecidableEq, Repr

def SipUri.text (u : SipUri) : Text := "sip:".toList ++ decimal u.extension ++ '@' :: u.domain

/-- one change of a call's state -/
structure Event where
  callId : Nat
  callerExt : Nat
  calleeExt : Nat
  uriTenant : Text
  state : CallState
  tenantId : Text
  stamp : Stamp

/-- an element: its tag around its content -/
def element (tag content : Text) : Text := '<' :: tag ++ '>' :: content ++ '<' :: '/' :: tag ++ ['>']

namespace Event

def direction : Text := "inbound".toList

def caller (e : Event) : SipUri := ⟨e.callerExt, e.uriTenant⟩

def callee (e : Event) : SipUri := ⟨e.calleeExt, e.uriTenant⟩

/-- the tags of an event's fields with their contents, in order -/
def fields (e : Event) : List (Text × Text) :=
  [("CallId".toList, "call-".toList ++ decimal e.callId),
   ("CallerUri".toList, e.caller.text),
   ("CalleeUri".toList, e.callee.text),
   ("State".toList, e.state.name),
   ("Direction".toList, direction),
   ("TenantId".toList, e.tenantId),
   ("Timestamp".toList, e.stamp.text)]

/-- the event's element, without the newline -/
def text (e : Event) : Text := element "CallStateEvent".toList (e.fields.flatMap fun f => element f.1 f.2)

def line (e : Event) : Text := e.text ++ ['\n']

/-- the event's line after what a buffer holds -/
def render (e : Event) (buffer : Text) : Text := buffer ++ e.line

end Event

/-- the line that only shows the feed is alive -/
def heartbeat : Text := element "Heartbeat".toList (element "Timestamp".toList "now".toList) ++ ['\n']

example : heartbeat = "<Heartbeat><Timestamp>now</Timestamp></Heartbeat>\n".toList := by decide

end CallFeed
