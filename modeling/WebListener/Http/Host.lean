import WebListener.Http.Message
-- The host that a request names. The authority of its target wins over the Host header, and no
-- other header is looked at.
namespace WebListener.Http

def visibleText? (bytes : List UInt8) : Option (List Char) :=
  if bytes.all fun b => (32 ≤ b && b < 127) || b = 9 then
    some (bytes.map fun b => Char.ofNat b.toNat)
  else none

def Request.header? (request : Request) (name : String) : Option (List UInt8) :=
  (request.headers.find? (·.name = name)).map (·.value)

def Request.host? (request : Request) : Option (List Char) :=
  match request.uri.authority? with
  | some authority => some authority
  | none =>
    match (request.header? "host").bind visibleText? with
    | some [] => none
    | host => host

end WebListener.Http
