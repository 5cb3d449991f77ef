import WebListener.Http.Uri.Reader
import WebListener.Net.SocketAddress.Reader
-- Requests and responses. Header names are kept in lower case, header values as bytes.
namespace WebListener.Http

inductive Version where
  | v09
  | v10
  | v11
  | v2
  | v3
deriving DecidableEq, Repr

def Version.text : Version → String
  | .v09 => "HTTP/0.9"
  | .v10 => "HTTP/1.0"
  | .v11 => "HTTP/1.1"
  | .v2 => "HTTP/2.0"
  | .v3 => "HTTP/3.0"

structure Header where
  name : String
  value : List UInt8
deriving DecidableEq, Repr

structure Request where
  method : String
  uri : Uri
  version : Version
  headers : List Header
  remote : Option Net.SocketAddress
deriving DecidableEq, Repr

structure Response where
  status : Nat
  headers : List Header
  body : List UInt8
deriving DecidableEq, Repr

inductive RequestFault where
  | uri (fault : UriFault)
  | method
  | headerName
  | headerValue
  | remote
deriving DecidableEq, Repr

def RequestFault.message : RequestFault → String
  | .uri fault => fault.message
  | .method => "invalid HTTP method"
  | .headerName => "invalid HTTP header name"
  | .headerValue => "failed to parse header value"
  | .remote => "invalid socket address syntax"

def isTokenChar (c : Char) : Bool := c.isAlphanum || "!#$%&'*+-.^_`|~".toList.contains c

def isTokenByte (b : UInt8) : Bool := isTokenChar (Char.ofNat b.toNat)

def isToken (bytes : List UInt8) : Bool := !bytes.isEmpty && bytes.all isTokenByte

def isValueByte (b : UInt8) : Bool := (32 ≤ b && b != 127) || b = 9

def asciiText (bytes : List UInt8) : String := .ofList (bytes.map fun b => Char.ofNat b.toNat)

def longestHeaderName : Nat := 65535

def readMethod (bytes : List UInt8) : Except RequestFault String :=
  if isToken bytes then .ok (asciiText bytes) else .error .method

def readHeader (name value : List UInt8) : Except RequestFault Header :=
  if !isToken name || longestHeaderName < name.length then .error .headerName
  else if !value.all isValueByte then .error .headerValue
  else .ok ⟨.ofList ((asciiText name).toList.map Char.toLower), value⟩

structure RequestParts where
  method : List UInt8
  uri : List UInt8
  version : Version
  headers : List (List UInt8 × List UInt8)
  remote : Option String

def Request.ofParts (parts : RequestParts) : Except RequestFault Request := do
  let uri ← (Uri.ofBytes parts.uri).mapError .uri
  let method ← readMethod parts.method
  let headers ← parts.headers.mapM fun (name, value) => readHeader name value
  let remote ← match parts.remote with
    | none => pure none
    | some text =>
      match Net.SocketAddress.ofString? text with
      | some address => pure (some address)
      | none => throw .remote
  return ⟨method, uri, parts.version, headers, remote⟩

namespace Response

def sized (r : Response) : Response :=
  let length := asBytes (toString r.body.length)
  { r with headers := r.headers ++ [⟨"content-length", length⟩] }
where
  asBytes (s : String) : List UInt8 := Text.utf8 s

def plainText (status : Nat) (text : String) : Response :=
  ⟨status, [⟨"content-type", Text.utf8 "text/plain; charset=utf-8"⟩], Text.utf8 text⟩

def bare (status : Nat) : Response := ⟨status, [], []⟩

def answering (request : Request) (r : Response) : Response :=
  if request.method = "HEAD" then { r with body := [] } else r

end Response

end WebListener.Http
