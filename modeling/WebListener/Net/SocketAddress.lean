import WebListener.Net.Port
-- Numeric addresses and their canonical spelling: an IPv6 address drops its first longest run of
-- two or more zero groups, an embedded IPv4 address keeps its dots, and a scope stands after a
-- percent sign unless it is zero.
namespace WebListener.Net

structure Ipv4 where
  a : UInt8
  b : UInt8
  c : UInt8
  d : UInt8
deriving DecidableEq, Repr

structure Ipv6 where
  groups : Vector UInt16 8
deriving DecidableEq, Repr

inductive IpAddress where
  | v4 (address : Ipv4)
  | v6 (address : Ipv6) (scope : UInt32)
deriving DecidableEq, Repr

structure SocketAddress where
  ip : IpAddress
  port : Port
deriving DecidableEq, Repr

namespace Ipv4

def unspecified : Ipv4 := ⟨0, 0, 0, 0⟩

def bytes (address : Ipv4) : List UInt8 := [address.a, address.b, address.c, address.d]

def ofNat (n : Nat) : Ipv4 :=
  ⟨.ofNat (n / 0x1000000), .ofNat (n / 0x10000), .ofNat (n / 0x100), .ofNat n⟩

def text (address : Ipv4) : String :=
  ".".intercalate (address.bytes.map fun b => .ofList (Text.decimalChars b.toNat))

end Ipv4

namespace Ipv6

def unspecified : Ipv6 := ⟨#v[0, 0, 0, 0, 0, 0, 0, 0]⟩

def longestZeroRun : Nat → List UInt16 → Nat × Nat
  | _, [] => (0, 0)
  | at_, groups@(_ :: rest) =>
    let here := (groups.takeWhile (· == 0)).length
    let later := longestZeroRun (at_ + 1) rest
    if here = 0 || here < later.2 then later else (at_, here)

def groupsText (groups : List UInt16) : String :=
  ":".intercalate (groups.map fun g => .ofList (Nat.toDigits 16 g.toNat))

def embeddedIpv4? (address : Ipv6) : Option Ipv4 :=
  match address.groups.toList with
  | [0, 0, 0, 0, 0, 0xFFFF, high, low] => some (.ofNat (high.toNat * 0x10000 + low.toNat))
  | _ => none

def text (address : Ipv6) : String :=
  match address.embeddedIpv4? with
  | some v4 => "::ffff:" ++ v4.text
  | none =>
    let groups := address.groups.toList
    let (start, length) := longestZeroRun 0 groups
    if length > 1 then
      groupsText (groups.take start) ++ "::" ++ groupsText (groups.drop (start + length))
    else groupsText groups

end Ipv6

def IpAddress.isV4 : IpAddress → Bool
  | .v4 _ => true
  | .v6 _ _ => false

def IpAddress.text : IpAddress → String
  | .v4 address => address.text
  | .v6 address _ => address.text

def SocketAddress.text (address : SocketAddress) : String :=
  match address.ip with
  | .v4 ip => ip.text ++ ":" ++ address.port.text
  | .v6 ip scope =>
    let zone := if scope = 0 then "" else "%" ++ .ofList (Text.decimalChars scope.toNat)
    "[" ++ ip.text ++ zone ++ "]:" ++ address.port.text

end WebListener.Net
