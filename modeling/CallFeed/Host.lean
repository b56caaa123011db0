/-
The host a server runs on, as far as listening and connecting go.

- `Host.bind`: whether a socket address can be listened on; a port that is kept back is refused before the address is
  looked at.
-/
import CallFeed.Address
import CallFeed.IoError

namespace CallFeed

structure Host where
  /-- the addresses that can be listened on -/
  bindable : IpAddress → Bool
  /-- the ports below this one are kept back, except the one that stands for any port -/
  firstOpenPort : Nat
  /-- why no connection can be made -/
  cutOff : Option IoError

namespace Host

def bind (h : Host) (a : SocketAddress) : Except IoError Unit :=
  if a.port ≠ 0 ∧ a.port.toNat < h.firstOpenPort then .error (IoError.ofNumber 13)
  else if h.bindable a.ip then .ok ()
  else .error (IoError.ofNumber 99)

/-- make a connection to something that listens -/
def connect (h : Host) : Except IoError Unit :=
  match h.cutOff with
  | none => .ok ()
  | some e => .error e

end Host

end CallFeed
