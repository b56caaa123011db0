/-
The server as a program. It listens, and floods every client that connects, each on a thread of its own, until it is
stopped.

A run is worked out ahead, one step at a time, as if the client took all it is offered; then its calls are made at their
times. Where a call fails, the step is worked out again with that failure laid down as the reply to the call. So a run
that a client met ends as the library says such runs end.
-/
import Std.Async.TCP
import Std.Time.DateTime.Timestamp
import CallFeed.Plan
import CallFeed.Server

open CallFeed CallFeed.Text
open Std.Async.TCP

namespace CallFeed.Main

/-! ## The surroundings -/

/-- the octets of a file, if it can be read -/
def readFile? (name : String) : IO (Option Octets) := do
  try return some (← IO.FS.readBinFile name).toList
  catch _ => return none

/-- the files settings may come from, with their names -/
def readFiles : IO Settings.Files := do
  let names := [settingsName, settingsName ++ Settings.tomlEnding]
  let files ← names.filterMapM fun name => do return (← readFile? (String.ofList name)).map (([name], ·))
  return { files := files }

/-- the variables that count -/
def readEnvironment : IO Settings.Environment := do
  let names := filterVariable :: Settings.Field.all.map fun f => (Settings.variableStart ++ f.key).map Char.toUpper
  names.filterMapM fun name => do
    return (← IO.getEnv (String.ofList name)).map fun value => (name, utf8 value.toList)

/-- the moment it is, if there is such a moment -/
def now? : IO (Option Moment) := do
  return Moment.of? (← Std.Time.Timestamp.now).toSecondsSinceUnixEpoch.val 0

/-- words that start anywhere, and the present moment as the stamp of every event -/
def source (seed : UInt64) : IO Source := do
  let stamp := match ← now? with
    | some m => Stamp.moment m
    | none => .withheld
  return ⟨Words.seeded seed, fun _ => stamp⟩

/-- eight octets by chance -/
def randomSeed : IO UInt64 := do return (← IO.getRandomBytes 8).toUInt64LE!

/-- what a program writes when it ends, and its code -/
def finish (e : Exit) : IO UInt32 := do
  IO.print (String.ofList e.out)
  IO.eprint (String.ofList e.err)
  return .ofNat e.code

/-! ## Logging -/

/-- log a line of a target, if it is to be shown -/
def log (filter : Filter) (target : Text) (l : LogLine) : IO Unit := do
  if filter.shows target l.level then
    let time := (← now?).elim [] Moment.text
    IO.println (String.ofList (time ++ [' '] ++ l.level.name.toList ++ [' '] ++ target ++ ": ".toList ++ l.text))
    (← IO.getStdout).flush

/-! ## Addresses and errors of the system -/

/-- an address as sockets take it -/
def toNet (a : SocketAddress) : Std.Net.SocketAddress :=
  match a.ip with
  | .v4 octets => .v4 ⟨⟨octets⟩, a.port⟩
  | .v6 groups => .v6 ⟨⟨groups⟩, a.port⟩

def ofNet : Std.Net.SocketAddress → SocketAddress
  | .v4 a => ⟨.v4 a.addr.octets, a.port⟩
  | .v6 a => ⟨.v6 a.addr.segments, a.port⟩

/-- the system's number for an error, if it has one -/
def numberOf? : IO.Error → Option UInt32
  | .alreadyExists _ n _ => some n
  | .otherError n _ => some n
  | .resourceBusy n _ => some n
  | .resourceVanished n _ => some n
  | .unsupportedOperation n _ => some n
  | .hardwareFault n _ => some n
  | .unsatisfiedConstraints n _ => some n
  | .illegalOperation n _ => some n
  | .protocolError n _ => some n
  | .timeExpired n _ => some n
  | .interrupted _ n _ => some n
  | .noFileOrDirectory _ n _ => some n
  | .invalidArgument _ n _ => some n
  | .permissionDenied _ n _ => some n
  | .resourceExhausted _ n _ => some n
  | .inappropriateType _ n _ => some n
  | .noSuchThing _ n _ => some n
  | .unexpectedEof => none
  | .userError _ => none

/-- an error of the system; sockets give its number the other way around zero -/
def errorOf (e : IO.Error) : IoError :=
  match numberOf? e with
  | some n => IoError.ofNumber (min n.toNat (-n).toNat)
  | none => ⟨.other, e.toString.toList⟩

/-! ## One client -/

/-- a client that is being flooded -/
structure Connection where
  client : Socket.Client
  flooder : Flooder
  seed : UInt64
  /-- when the run started, on the clock that never goes back -/
  started : Nat
  log : LogLine → IO Unit

namespace Connection

/-- milliseconds since the run started -/
def clock (c : Connection) : IO Nat := do return (← IO.monoMsNow) - c.started

/-- wait for a time of the run's clock -/
def waitFor (c : Connection) (time : Nat) : IO Unit := do IO.sleep (.ofNat (time - (← c.clock)))

/-- make calls at their times, the first of this number; the number of the one that fails, and its error -/
def makeCalls (c : Connection) : Nat → List Call → IO (Option (Nat × IoError))
  | _, [] => return none
  | number, call :: calls => do
    c.waitFor call.time
    let failed ←
      try
        (c.client.send ⟨call.taken.toArray⟩).block
        pure none
      catch e => pure (some (errorOf e))
    match failed with
    | some e => return some (number, e)
    | none => c.makeCalls (number + 1) calls

/-- the run that a step leads to -/
def runAfter : Except Finish Run → Run
  | .ok r => r
  | .error done => done.run

/-- take a step of a run that has made no calls yet -/
def take (c : Connection) (step : Writer → Except Finish Run) : IO (Except Finish Run) := do
  let met := match ← c.makeCalls 1 (runAfter (step {})).calls.toList with
    | none => step {}
    | some (number, e) => step { setbacks := [(number, .error e)] }
  (runAfter met).notes.forM fun n => c.log n.line
  c.waitFor (runAfter met).clock
  return met

/-- a run as the clock shows it, its calls and notes dealt with -/
def resumed (c : Connection) (r : Run) : IO Run := do
  return { r with clock := max r.clock (← c.clock), calls := #[], notes := #[] }

/-- rounds until the time is over -/
partial def rounds (c : Connection) (before : Run) : IO Finish := do
  let r ← c.resumed before
  if c.flooder.duration ≤ r.elapsed then return r.finish {}
  let src ← source c.seed
  match ← c.take fun w => c.flooder.round src w r with
  | .error done => return done
  | .ok after => c.rounds after

/-- the whole run -/
def run (c : Connection) : IO Finish := do
  match ← c.take fun w => Run.beat w {} with
  | .error done => return done
  | .ok r => c.rounds r

end Connection

/-- flood a client and log how that came out -/
def handle (flooder : Flooder) (filter : Filter) (client : Socket.Client) : IO Unit := do
  let peer := (ofNet (← client.getPeerName)).text
  let log := log filter floodTarget
  log (connectedLine peer)
  let c : Connection := ⟨client, flooder, ← randomSeed, ← IO.monoMsNow, log⟩
  match (← c.run).outcome with
  | .error fault => log ⟨.error, fault.message.toList⟩
  | .ok outcome =>
    (outcome.lines peer).forM log
    if outcome.isCompleted then
      try client.shutdown.block
      catch e => log ⟨.debug, aboutPeer peer "Error shutting down".toList ("]: ".toList ++ (errorOf e).text)⟩

/-! ## All clients -/

/-- milliseconds to wait after a client could not be accepted, so that an error that stays does not spin the loop -/
def acceptPause : UInt32 := 100

/-- accept clients for ever -/
partial def acceptAll (server : Socket.Server) (onClient : Socket.Client → IO Unit) (onError : IO.Error → IO Unit) :
    IO Unit := do
  try
    let client ← server.accept.block
    discard (IO.asTask (onClient client) .dedicated)
  catch e =>
    onError e
    IO.sleep acceptPause
  acceptAll server onClient onError

/-- a socket that listens as planned -/
def listen (p : Plan) : IO Socket.Server := do
  let server ← Socket.Server.mk
  server.bind (toNet p.address)
  server.listen p.settings.backlog
  return server

/-- run the server -/
def run (p : Plan) (filter : Filter) : IO UInt32 := do
  let log := log filter serverTarget
  let server : Except IoError Socket.Server ←
    try pure (.ok (← listen p))
    catch e => pure (.error (errorOf e))
  match server with
  | .error e => finish (p.unbound e)
  | .ok server =>
    (p.lines (ofNet (← server.getSockName)).text).forM log
    acceptAll server (handle p.flooder filter) fun e =>
      log ⟨.warn, "Error accepting connection: ".toList ++ (errorOf e).text⟩
    return 0

end CallFeed.Main

def main (args : List String) : IO UInt32 := do
  let env ← Main.readEnvironment
  match planOf (← Main.readFiles) env (utf8 CommandLine.programName :: args.map fun a => utf8 a.toList) with
  | .error e => Main.finish e
  | .ok plan =>
    IO.eprint (String.ofList (noticesOf env plan.settings))
    Main.run plan (filterOf env plan.settings)
