import WebListener.Net.SocketAddress
import WebListener.Text.Reader
-- Reading numeric addresses. IPv4 groups have no leading zero, IPv6 groups up to four hex
-- digits; a pair of colons stands for at least one zero group, and the last two groups may be
-- written as IPv4.
namespace WebListener.Net

open Text (Reader readChar)

namespace SocketAddress

def readDecimal (limit : Nat) : Reader Nat := fun cs =>
  match Text.decimal? (cs.takeWhile Text.isDigit) with
  | some n => if n < limit then some (n, cs.dropWhile Text.isDigit) else none
  | none => none

def readByte : Reader UInt8 := fun cs =>
  let digits := cs.takeWhile Text.isDigit
  match Text.decimal? digits with
  | some n =>
    if digits.length ≤ 3 && n < 256 && !(digits.head? == some '0' && digits.length > 1) then
      some (.ofNat n, cs.drop digits.length)
    else none
  | none => none

def readIpv4 : Reader Ipv4 := fun cs => do
  let (a, cs) ← readByte cs
  let (_, cs) ← readChar '.' cs
  let (b, cs) ← readByte cs
  let (_, cs) ← readChar '.' cs
  let (c, cs) ← readByte cs
  let (_, cs) ← readChar '.' cs
  let (d, cs) ← readByte cs
  some (⟨a, b, c, d⟩, cs)

def readGroup : Reader UInt16 := fun cs =>
  let digits := cs.takeWhile fun c => (Text.digitIn? 16 c).isSome
  if 1 ≤ digits.length && digits.length ≤ 4 then
    some (.ofNat (Text.numberIn 16 digits), cs.drop digits.length)
  else none

-- Groups up to a limit, a colon before each but the first of its run, the last two perhaps as
-- IPv4. Stops in front of what is no group; the flag tells that an IPv4 part was read.
def readGroups : (limit : Nat) → (first : Bool) → List Char → List UInt16 × Bool × List Char
  | 0, _, cs => ([], false, cs)
  | limit + 1, first, cs =>
    let inner := if first then some ((), cs) else readChar ':' cs
    match inner with
    | none => ([], false, cs)
    | some (_, after) =>
      match (if limit = 0 then none else readIpv4 after) with
      | some (v4, rest) =>
        ([.ofNat (v4.a.toNat * 256 + v4.b.toNat), .ofNat (v4.c.toNat * 256 + v4.d.toNat)], true, rest)
      | none =>
        match readGroup after with
        | some (group, rest) =>
          let (groups, embedded, rest) := readGroups limit false rest
          (group :: groups, embedded, rest)
        | none => ([], false, cs)

def ipv6OfGroups (groups : List UInt16) : Ipv6 :=
  ⟨Vector.ofFn fun i => groups[i.val]?.getD 0⟩

def readIpv6 : Reader Ipv6 := fun cs => do
  let (front, embedded, cs) := readGroups 8 true cs
  if front.length = 8 then some (ipv6OfGroups front, cs)
  else if embedded then none
  else
    let (_, cs) ← readChar ':' cs
    let (_, cs) ← readChar ':' cs
    let (back, _, cs) := readGroups (7 - front.length) true cs
    some (ipv6OfGroups (front ++ List.replicate (8 - front.length - back.length) 0 ++ back), cs)

def readScope : Reader UInt32 := fun cs =>
  match readChar '%' cs with
  | some (_, rest) => (readDecimal 0x100000000 rest).map fun (n, rest) => (.ofNat n, rest)
  | none => some (0, cs)

def readPort : Reader Port := fun cs => do
  let (_, cs) ← readChar ':' cs
  let (n, cs) ← readDecimal 65536 cs
  some (.ofNat n, cs)

def readV4 : Reader SocketAddress := fun cs => do
  let (ip, cs) ← readIpv4 cs
  let (port, cs) ← readPort cs
  some (⟨.v4 ip, port⟩, cs)

def readV6 : Reader SocketAddress := fun cs => do
  let (_, cs) ← readChar '[' cs
  let (ip, cs) ← readIpv6 cs
  let (scope, cs) ← readScope cs
  let (_, cs) ← readChar ']' cs
  let (port, cs) ← readPort cs
  some (⟨.v6 ip scope, port⟩, cs)

def ofChars? (cs : List Char) : Option SocketAddress :=
  match (readV4 cs).orElse fun _ => readV6 cs with
  | some (address, []) => some address
  | _ => none

def ofString? (s : String) : Option SocketAddress := ofChars? s.toList

end SocketAddress

end WebListener.Net
