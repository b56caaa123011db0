/-
What a client can tell of the octets it received: how many events there were, where the heartbeats stood, and whether the
events are as they should be.
-/
import CallFeed.Feed.Fields
import CallFeed.Feed.Lines
import CallFeed.Text.Utf8

namespace CallFeed.Feed

open CallFeed.Text

structure Reception where
  events : Nat
  heartbeatPlaces : List Nat
  /-- the events are numbered one after another, from one on -/
  idsInOrder : Bool
  /-- every event is well formed, with values in range -/
  valid : Bool
  /-- every event's tenant is that of its addresses -/
  tenantsMatch : Bool
deriving DecidableEq, Repr

/-- the lines that are not heartbeats -/
def eventLines (s : Octets) : List Octets :=
  let beat := utf8 heartbeat
  (lines s).filter fun l => l != beat

/-- the fields of a well-formed line of an event -/
def fieldsOf? (line : Octets) : Option Fields := do
  let t ← decode? line
  let f ← Fields.ofLine? t
  if t = f.text ++ ['\n'] then some f else none

def Reception.ofOctets (s : Octets) : Reception :=
  let events := eventLines s
  let fields := events.filterMap fieldsOf?
  { events := events.length
    heartbeatPlaces := Feed.heartbeatPlaces s
    idsInOrder := fields.map Fields.callId == (List.range fields.length).map (· + 1)
    valid := fields.length == events.length && fields.all Fields.inRange
    tenantsMatch := fields.all fun f => f.tenantId == f.caller.domain }

end CallFeed.Feed
