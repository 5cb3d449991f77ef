import WebListener.Net.ListenAddress
import WebListener.Net.SocketAddress.Reader
-- From the text "host:port" to socket addresses. A complete numeric address stands for itself;
-- otherwise the port is what follows the last colon, and the host before it is looked up.
namespace WebListener.Net

open Kernel (IoError)
open Text (Reader)

def IpFamily.admits : IpFamily → SocketAddress → Bool
  | .any, _ => true
  | .v4, address => address.ip.isV4
  | .v6, address => !address.ip.isV4

namespace Resolve

-- One part of an IPv4 host: a leading zero makes it octal, a leading "0x" hexadecimal.
def readPart : Reader Nat := fun cs =>
  let (base, digits) := match cs with
    | '0' :: x :: rest =>
      if (x = 'x' || x = 'X') && (rest.head?.bind (Text.digitIn? 16)).isSome then (16, rest)
      else (8, cs)
    | '0' :: _ => (8, cs)
    | _ => (10, cs)
  let own := digits.takeWhile fun c => (Text.digitIn? base c).isSome
  if own.isEmpty then none else some (Text.numberIn base own, digits.drop own.length)

def readParts : Nat → List Char → Option (List Nat)
  | 0, _ => none
  | left + 1, cs =>
    match readPart cs with
    | none => none
    | some (n, []) => some [n]
    | some (n, '.' :: rest) => (readParts left rest).map (n :: ·)
    | some _ => none

def combineParts (parts : List Nat) : Option Ipv4 :=
  match parts.reverse with
  | [] => none
  | last :: leading =>
    if leading.all (· < 256) && last < Nat.pow 256 (4 - leading.length) then
      let high := leading.reverse.foldl (fun value part => value * 256 + part) 0
      some (.ofNat (high * Nat.pow 256 (4 - leading.length) + last))
    else none

def ipv4Host? (host : List Char) : Option Ipv4 := (readParts 4 host).bind combineParts

def ipv6Host? (host : List Char) : Option IpAddress :=
  match SocketAddress.readIpv6 host with
  | some (ip, rest) =>
    match SocketAddress.readScope rest with
    | some (scope, []) => some (.v6 ip scope)
    | _ => none
  | none => none

def numericHost? (host : List Char) : Option IpAddress :=
  match ipv4Host? host with
  | some ip => some (.v4 ip)
  | none => ipv6Host? host

def completed (address : List Char) : List Char :=
  if address.head? = some ':' then "0.0.0.0".toList ++ address else address

def lookupHost (names : List (String × IpAddress)) (host : List Char) : List IpAddress :=
  match numericHost? host with
  | some ip => [ip]
  | none => (names.filter (·.1 == String.ofList host)).map (·.2)

def resolve (names : List (String × IpAddress)) (hostPort : List Char) :
    Except IoError (List SocketAddress) :=
  match SocketAddress.ofChars? hostPort with
  | some address => .ok [address]
  | none =>
    match Text.splitLast ':' hostPort with
    | none => .error .invalidSocketAddress
    | some (host, port) =>
      match Port.ofChars? port with
      | none => .error .invalidPort
      | some port =>
        match lookupHost names host with
        | [] => .error .unknownHost
        | found => .ok (found.map (⟨·, port⟩))

end Resolve

end WebListener.Net
