import WebListener.Net.Authority
import WebListener.Net.Resolve
-- Binding a TCP listener. The network decides per address; of several addresses the first that
-- can be bound wins, and if none can the last refusal is reported.
namespace WebListener.Net

open Kernel (IoError Errno)

-- What a machine's network does. `held` are the addresses that the program's listeners have, and
-- beside them `refusal` is the kernel's answer to a bind, `none` when it is granted; a granted
-- port 0 becomes `freePort`. `blocking` is what keeps a socket that is bound from being made
-- non-blocking, and `route` the address from which the machine reaches its own TCP listeners, or
-- what stops it.
structure Network where
  names : List (String × IpAddress)
  held : List SocketAddress
  refusal : List SocketAddress → SocketAddress → Option IoError
  blocking : SocketAddress → Option IoError
  freePort : List SocketAddress → Port
  route : Except IoError SocketAddress
  authority : Authority

def IpAddress.plain : IpAddress → IpAddress
  | .v4 address => .v4 address
  | .v6 address scope =>
    match address.embeddedIpv4? with
    | some inner => .v4 inner
    | none => .v6 address scope

def IpAddress.covers (one other : IpAddress) : Bool :=
  one == other ||
    match one with
    | .v4 address => address == .unspecified && other.isV4
    | .v6 address _ => address == .unspecified

namespace Network

def conflicts (x y : SocketAddress) : Bool :=
  x.port == y.port && x.port != 0 &&
    (x.ip.plain.covers y.ip.plain || y.ip.plain.covers x.ip.plain)

def unusedPort (held : List SocketAddress) : Port :=
  let ports := (List.range (held.length + 1)).map fun n => UInt16.ofNat (40000 + n)
  (ports.find? fun port => !held.any (·.port == port)).getD 40000

-- A machine on which only a listener of the program keeps others from an address, and that has no
-- route, not even to itself.
def isolated : Network where
  names := []
  held := []
  refusal := fun held wanted =>
    if held.any (conflicts wanted) then some (.os Errno.addressInUse) else none
  blocking := fun _ => none
  freePort := unusedPort
  route := .error (.os Errno.networkUnreachable)
  authority := .silent

def occupied (network : Network) (address : SocketAddress) : Network :=
  { network with held := address :: network.held }

def bindOne (network : Network) (address : SocketAddress) : Except IoError SocketAddress :=
  match network.refusal network.held address with
  | some e => .error e
  | none =>
    .ok (if address.port = 0 then { address with port := network.freePort network.held }
      else address)

def bindFirst (network : Network) : List SocketAddress → Except IoError SocketAddress
  | [] => .error .noAddresses
  | [address] => network.bindOne address
  | address :: others =>
    match network.bindOne address with
    | .ok bound => .ok bound
    | .error _ => network.bindFirst others

def unblocked (network : Network) (bound : SocketAddress) : Except IoError SocketAddress :=
  match network.blocking bound with
  | some e => .error e
  | none => .ok bound

end Network

def ListenAddress.bindTcp (address : ListenAddress) (family : IpFamily) (network : Network) :
    Except IoError SocketAddress := do
  let found ← Resolve.resolve network.names (Resolve.completed address.address.toList)
  let bound ← network.bindFirst (found.filter family.admits)
  network.unblocked bound

end WebListener.Net
