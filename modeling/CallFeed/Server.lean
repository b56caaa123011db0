/-
Serving clients. Every client that connects is flooded on its own, and nothing of one run is seen in another.

- `Flooder.handle`: one client's run, as it is logged, and what the client received.
-/
import CallFeed.Log
import CallFeed.Feed.Reception
import CallFeed.Flood.Flooder

namespace CallFeed

open CallFeed.Text

/-- a client, as the server meets it -/
structure Client where
  /-- what is written to for it -/
  writer : Writer
  /-- what is written reaches it -/
  reached : Bool

/-- it reads all it is sent -/
def Client.reads : Client := ⟨{}, true⟩

/-- the octets of a run that a client receives -/
def Client.received (c : Client) (r : Run) : Octets := if c.reached then r.sent else []

/-- a line with the peer it is about -/
def aboutPeer (peer text : Text) (rest : Text) : Text := text ++ " [peer=".toList ++ peer ++ rest

/-- what is logged when a client has connected -/
def connectedLine (peer : Text) : LogLine := ⟨.info, aboutPeer peer "Client connected".toList [']']⟩

/-- what is logged at the end of a run -/
def Outcome.lines (peer : Text) : Outcome → List LogLine
  | .completed s =>
    [⟨.info, aboutPeer peer s.text [']']⟩,
     ⟨.debug, aboutPeer peer "Run details".toList
       (", batches=".toList ++ decimal s.batches ++ ", heartbeats=".toList ++ decimal s.heartbeats ++ [']'])⟩]
  | .disconnected s =>
    [⟨.info, aboutPeer peer "Client disconnected".toList (", events=".toList ++ decimal s.events ++ [']'])⟩]
  | .failed e => [⟨.error, aboutPeer peer "Client handler failed".toList ("]: ".toList ++ e.text)⟩]

/-- a client's run, seen from outside -/
structure Session where
  log : List LogLine
  received : Octets

/-- flood a client -/
def Flooder.handle (f : Flooder) (src : Source) (peer : Text) (c : Client) : Except Fault Session :=
  let done := f.flood src c.writer
  match done.outcome with
  | .error fault => .error fault
  | .ok outcome =>
    .ok {
      log := connectedLine peer ::
        (done.run.notes.toList.map Note.line ++ outcome.lines peer)
      received := c.received done.run }

end CallFeed
