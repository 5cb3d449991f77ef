import WebListener.Http.Application
import WebListener.Http.Head
-- What comes back on one connection for all that a client sends: one reply for each request in
-- turn, until one of the two sides ends it.
namespace WebListener.Http

def reason : Nat → String
  | 200 => "OK"
  | 308 => "Permanent Redirect"
  | 400 => "Bad Request"
  | 404 => "Not Found"
  | 405 => "Method Not Allowed"
  | 414 => "URI Too Long"
  | 431 => "Request Header Fields Too Large"
  | 500 => "Internal Server Error"
  | _ => "<none>"

structure Reply where
  version : Version
  status : Nat
  headers : List Header
  body : List UInt8
deriving DecidableEq, Repr

namespace Reply

def statusLine (reply : Reply) : String :=
  reply.version.text ++ " " ++ toString reply.status ++ " " ++ reason reply.status

def headerLine (header : Header) : List UInt8 := Text.utf8 (header.name ++ ": ") ++ header.value

def stated (name value : String) : Header := ⟨name, Text.utf8 value⟩

def connectionHeaders (version : Version) (keepsOpen : Bool) : List Header :=
  match version, keepsOpen with
  | .v10, true => [stated "connection" "keep-alive"]
  | .v11, false => [stated "connection" "close"]
  | _, _ => []

def lengthHeaders (request : Request) (response : Response) : List Header :=
  if request.method = "HEAD" || response.headers.any (·.name = "content-length") then []
  else [stated "content-length" (toString response.body.length)]

def ofResponse (head : Head) (response : Response) : Reply :=
  ⟨head.request.version, response.status,
    response.headers ++ lengthHeaders head.request response ++
      connectionHeaders head.request.version head.framing.keepsOpen,
    response.body⟩

def refusing (refusal : Refusal) : Reply :=
  ⟨.v11, refusal.status, [stated "connection" "close", stated "content-length" "0"], []⟩

end Reply

structure Exchange where
  replies : List Reply
  events : List Log.Event
deriving DecidableEq, Repr

namespace Exchange

def none : Exchange := ⟨[], []⟩

def before (reply : Reply) (events : List Log.Event) (later : Exchange) : Exchange :=
  ⟨reply :: later.replies, events ++ later.events⟩

-- What follows a body that nobody read; a body in chunks ends the connection.
def afterBody? (framing : Framing) (bytes : List UInt8) : Option (List UInt8) :=
  match framing.body with
  | .sized length => if length ≤ bytes.length then some (bytes.drop length) else Option.none
  | .chunked => Option.none

def inTurn (application : Application) (remote : Option Net.SocketAddress) :
    (fuel : Nat) → List UInt8 → Exchange
  | 0, _ => none
  | fuel + 1, bytes =>
    match Head.next? remote bytes with
    | Option.none => none
    | some (.error refusal, _) => ⟨[.refusing refusal], []⟩
    | some (.ok head, rest) =>
      let answer := application head.request
      before (.ofResponse head answer.response) answer.events <|
        match head.framing.keepsOpen, afterBody? head.framing rest with
        | true, some rest => inTurn application remote fuel rest
        | _, _ => none

def run (application : Application) (remote : Option Net.SocketAddress) (bytes : List UInt8) :
    Exchange :=
  inTurn application remote bytes.length bytes

end Exchange

end WebListener.Http
