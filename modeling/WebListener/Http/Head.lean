import WebListener.Http.Host
import WebListener.Http.Message
import WebListener.Text.Blank
import WebListener.Text.Decimal
import WebListener.Text.Split
-- The head of a request as it arrives on a connection: one request line and the header lines, up
-- to an empty line. A line ends at a line feed, with or without a carriage return before it.
namespace WebListener.Http

inductive Refusal where
  | malformed
  | targetTooLong
  | tooManyHeaders
deriving DecidableEq, Repr

def Refusal.status : Refusal → Nat
  | .malformed => 400
  | .targetTooLong => 414
  | .tooManyHeaders => 431

inductive BodyExtent where
  | sized (length : Nat)
  | chunked
deriving DecidableEq, Repr

structure Framing where
  body : BodyExtent
  stated : Option Nat
  keepsOpen : Bool
deriving DecidableEq, Repr

namespace Framing

def initial (version : Version) : Framing := ⟨.sized 0, none, version = .v11⟩

def lowerTrimmed (cs : List Char) : List Char := (Text.trimmed cs).map Char.toLower

def listItems (value : List UInt8) : List (List Char) :=
  match visibleText? value with
  | some cs => (Text.splitAll ',' cs).map lowerTrimmed
  | none => []

def longestBody : Nat := Nat.pow 2 64

-- What one header says. Chunks win over any length, and a second length has to repeat the first.
def read (version : Version) (framing : Framing) (header : Header) :
    Except Refusal Framing :=
  if header.name = "transfer-encoding" then
    if version = .v11 && (listItems header.value).getLast? = some "chunked".toList then
      .ok { framing with body := .chunked }
    else .error .malformed
  else if header.name = "content-length" then
    if framing.body = .chunked then .ok framing
    else
      match Text.decimal? (header.value.map fun b => Char.ofNat b.toNat) with
      | none => .error .malformed
      | some length =>
        if longestBody ≤ length || framing.stated.any (· ≠ length) then .error .malformed
        else .ok { framing with body := .sized length, stated := some length }
  else if header.name = "connection" then
    let items := listItems header.value
    .ok { framing with
      keepsOpen :=
        if framing.keepsOpen then !items.contains "close".toList
        else items.contains "keep-alive".toList }
  else .ok framing

end Framing

structure Head where
  request : Request
  framing : Framing
deriving DecidableEq, Repr

namespace Head

def space : UInt8 := 32
def lineFeed : UInt8 := 10
def carriageReturn : UInt8 := 13

def takeLine (bytes : List UInt8) : Option (List UInt8 × List UInt8) :=
  let line := bytes.takeWhile (· ≠ lineFeed)
  match bytes.drop line.length with
  | [] => none
  | _ :: rest =>
    some (if line.getLast? = some carriageReturn then line.dropLast else line, rest)

def takeLines : (fuel : Nat) → List UInt8 → Option (List (List UInt8) × List UInt8)
  | 0, _ => none
  | fuel + 1, bytes => do
    let (line, rest) ← takeLine bytes
    if line.isEmpty then some ([], rest)
    else
      let (lines, rest) ← takeLines fuel rest
      some (line :: lines, rest)

def skipEmptyLines : (fuel : Nat) → List UInt8 → List UInt8
  | 0, bytes => bytes
  | fuel + 1, bytes =>
    match takeLine bytes with
    | some ([], rest) => skipEmptyLines fuel rest
    | _ => bytes

def versions : List (List UInt8 × Version) :=
  [(Text.utf8 "HTTP/1.1", .v11), (Text.utf8 "HTTP/1.0", .v10)]

def isTargetByte (b : UInt8) : Bool := 33 ≤ b && b ≠ 127

def readRequestLine (line : List UInt8) : Except Refusal (String × Uri × Version) := do
  let method := line.takeWhile (· ≠ space)
  let afterMethod := (line.drop method.length).drop 1
  let target := afterMethod.takeWhile (· ≠ space)
  let afterTarget := (afterMethod.drop target.length).drop 1
  let some version := versions.lookup afterTarget | throw .malformed
  if target.isEmpty || !target.all isTargetByte then throw .malformed
  let method ← (readMethod method).mapError fun _ => .malformed
  match Uri.ofBytes target with
  | .ok uri => return (method, uri, version)
  | .error .tooLong => throw .targetTooLong
  | .error _ => throw .malformed

def isLineBlank (b : UInt8) : Bool := b = space || b = 9

def trimBlanks (bytes : List UInt8) : List UInt8 :=
  ((bytes.dropWhile isLineBlank).reverse.dropWhile isLineBlank).reverse

def colon : UInt8 := 58

def readHeaderLine (line : List UInt8) : Except Refusal Header :=
  let name := line.takeWhile (· ≠ colon)
  match line.drop name.length with
  | [] => .error .malformed
  | _ :: value => (readHeader name (trimBlanks value)).mapError fun _ => .malformed

def mostHeaders : Nat := 100

def ofLines (remote : Option Net.SocketAddress) : List (List UInt8) → Except Refusal Head
  | [] => .error .malformed
  | first :: others => do
    let (method, uri, version) ← readRequestLine first
    if mostHeaders < others.length then throw .tooManyHeaders
    let headers ← others.mapM readHeaderLine
    let framing ← headers.foldlM (Framing.read version) (Framing.initial version)
    return ⟨⟨method, uri, version, headers, remote⟩, framing⟩

def next? (remote : Option Net.SocketAddress) (bytes : List UInt8) :
    Option (Except Refusal Head × List UInt8) := do
  let bytes := skipEmptyLines bytes.length bytes
  let (lines, rest) ← takeLines bytes.length bytes
  some (ofLines remote lines, rest)

end Head

end WebListener.Http
