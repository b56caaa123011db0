/-
The program on a host that is only described, so that a command line can say without a network what it would do: what it
logs when it starts, and what its clients get.

- `start`: the lines that the server logs at first, or the end of the program;
- `serve`: what clients receive that come one after another;
- `Host.isolated`, `Client.shut`, `Client.gone`: a host that is cut off from every network, and clients that fail.
-/
import CallFeed.Host
import CallFeed.Plan
import CallFeed.Server

namespace CallFeed

/-- start: what is logged once the server listens; the port it listens on is not told -/
def start (h : Host) (files : Settings.Files) (env : Settings.Environment) (args : List Octets) :
    Except Exit (List LogLine) := do
  let plan ← planOf files env args
  (h.bind plan.address).mapError fun e => (plan.unbound e).after (noticesOf env plan.settings)
  return (plan.lines (plan.address.withPort "PORT".toList)).filter fun l =>
    (filterOf env plan.settings).shows serverTarget l.level

/-- the octets that reach a client that connects to a listening server and reads -/
def reaching (h : Host) (f : Flooder) (src : Source) : Octets :=
  match h.connect with
  | .error _ => []
  | .ok _ => (f.flood src Client.reads.writer).run.sent

/-- what clients receive, each with words of its own to draw from, once the server listens -/
def serve (h : Host) (a : SocketAddress) (f : Flooder) (sources : List Source) :
    Except IoError (List Feed.Reception) :=
  (h.bind a).map fun _ => sources.map fun src => Feed.Reception.ofOctets (reaching h f src)

/-! ## Without a network -/

/-- a host without interfaces: nothing tells its own addresses of four octets from others, of those of eight groups only
the one that stands for all can be listened on, and no connection can be made -/
def Host.isolated : Host where
  bindable
    | .v4 _ => true
    | .v6 groups => groups.toList.all (· == 0) || (IpAddress.mapped? groups).isSome
  firstOpenPort := 1024
  cutOff := some (IoError.ofNumber 101)

namespace Client

/-- nothing more can be sent to it -/
def shut : Client := ⟨{ setbacks := [(1, .error (IoError.ofNumber 32))] }, false⟩

/-- it is gone before anything is sent; the first write does not show that yet -/
def gone : Client := ⟨{ setbacks := [(2, .error (IoError.ofNumber 104))] }, false⟩

end Client

end CallFeed
