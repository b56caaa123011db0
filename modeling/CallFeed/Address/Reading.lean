/-
Reading an address and a port back.

Four octets stand alone in front of the colon of the port, groups stand in brackets. A port is digits of a number up to
65535. Zones are not read.

- `SocketAddress.ofText?`: the address and the port of a text.
-/
import CallFeed.Address

namespace CallFeed.SocketAddress

open CallFeed.Text

/-- the port behind a colon -/
def port? : Text → Option UInt16
  | ':' :: ds => if ds = [] then none else (readDigits 10 65535 .tooLarge 0 ds).toOption.map UInt16.ofNat
  | _ => none

/-- the address and the port of a text -/
def ofText? : Text → Option SocketAddress
  | '[' :: t => do
    let ip ← IpAddress.ofText? (t.takeWhile (· != ']'))
    let port ← port? ((t.dropWhile (· != ']')).drop 1)
    if ip.isV4 then none else some ⟨ip, port⟩
  | t => do
    let ip ← IpAddress.ofText? (t.takeWhile (· != ':'))
    let port ← port? (t.dropWhile (· != ':'))
    if ip.isV4 then some ⟨ip, port⟩ else none

example : (ofText? "[::FFFF:1.2.3.4]:0080".toList).map text = some "[::ffff:1.2.3.4]:80".toList ∧
    ofText? "[1.2.3.4]:80".toList = none ∧ ofText? "::1:80".toList = none := by decide +kernel

end CallFeed.SocketAddress
