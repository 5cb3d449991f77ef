import WebListener.Http.AccessLog
import WebListener.Http.Connection
import WebListener.Http.Redirect
import WebListener.Lifecycle.Schedule
-- One server and a client beside it that starts it, watches and closes its listeners, and sends
-- requests. The server takes its moves whenever the client waits, and at no other time.
namespace WebListener.Lifecycle

open Http (Application Reply)
open Kernel (IoError Path)
open Net (BoundAddress)

def World.application (world : World) (side : Side) : Application :=
  Http.AccessLog.around
    (match side with
      | .primary => .builtIn
      | .redirector => Http.Redirect.application world.options.httpsPort)
    world.options.requestLogging

-- What waiting for a listener comes to. It is over when what was started has ended and the
-- listener never left its first state.
inductive Presence where
  | seen (awaited : Awaited)
  | over
deriving DecidableEq, Repr

structure Session where
  world : World
  launched : Option Launch
  joined : Bool

inductive Step where
  | start (launch : Launch)
  | spawnRedirector
  | listening (side : Side)
  | look (side : Side)
  | close (side : Side)
  | isClosed (side : Side)
  | join
  | holds (path : Path)
  | remove (path : Path)
  | await (text : String)
  | request (side : Side) (bytes : List UInt8)
  | secureRequest (side : Side) (bytes : List UInt8)
  | leaveOpen (side : Side) (bytes : List UInt8)

inductive Seen where
  | nothing
  | disabled
  | presence (presence : Presence)
  | answer (yes : Bool)
  | ending (ending : Ending)
  | unreachable (cause : IoError)
  | notListening (presence : Presence)
  | replies (replies : List Reply)

namespace Session

def initial (world : World) : Session := ⟨world, none, false⟩

def settled (session : Session) : Session := { session with world := session.world.settle }

def ending? (session : Session) : Option Ending :=
  match session.launched with
  | none => none
  | some .redirector => endingOf .redirector session.world.redirector.phase
  | some _ => session.world.result?

def presence (session : Session) (side : Side) : Presence :=
  match Interest.poll .listening (session.world.lane side).handle with
  | .pending => if session.ending?.isSome then .over else .seen .pending
  | awaited => .seen awaited

def mentions (event : Log.Event) (text : String) : Bool :=
  (event.message :: event.fields.map fun (_, value) => value.text).any fun part =>
    (Text.splitFirst text.toList part.toList).isSome

def connect (world : World) (side : Side) : BoundAddress → Except IoError (Option Net.SocketAddress)
  | .tcp _ => world.network.route.map some
  | .unix path => do
    world.files.connect path ((world.lane side).phase.held? = some (.unix path))
    pure none

def exchange (session : Session) (side : Side) (bytes : List UInt8) :
    Except IoError (Session × Seen) :=
  match session.presence side with
  | .seen (.bound address) => do
    let remote ← connect session.world side address
    let exchange := Http.Exchange.run (session.world.application side) remote bytes
    pure ({ session with world := session.world.tell exchange.events }, .replies exchange.replies)
  | presence => pure (session, .notListening presence)

def request (session : Session) (side : Side) (bytes : List UInt8) : Session × Seen :=
  match session.exchange side bytes with
  | .ok result => result
  | .error cause => (session, .unreachable cause)

def secureRequest (session : Session) (side : Side) (bytes : List UInt8) : Session × Seen :=
  match session.presence side with
  | .seen (.bound (.tcp _)) => session.request side bytes
  | presence => (session, .notListening presence)

def launch (session : Session) (what : Launch) : Session :=
  { session with
    world := session.world.attempt (.launch what), launched := some what, joined := false }

def advance (session : Session) : Step → Except IoError (Session × Seen)
  | .start what => pure (session.launch what, .nothing)
  | .spawnRedirector =>
    if session.world.options.redirectHttpToHttps then pure (session.launch .redirector, .nothing)
    else pure (session, .disabled)
  | .listening side =>
    let session := session.settled
    pure (session, .presence (session.presence side))
  | .look side =>
    pure (session, .presence (.seen (Interest.poll .listening (session.world.lane side).handle)))
  | .close side => pure ({ session with world := session.world.close side }, .nothing)
  | .isClosed side => pure (session, .answer (session.world.lane side).handle.isClosed)
  | .join =>
    let session := session.settled
    match session.ending? with
    | some ending => pure ({ session with joined := true }, .ending ending)
    | none => pure (session, .nothing)
  | .holds path => pure (session, .answer (session.world.files.holds path))
  | .remove path =>
    match session.world.files.remove path with
    | .ok files =>
      pure ({ session with world := { session.world with files := files } }, .answer true)
    | .error _ => pure (session, .answer false)
  | .await text =>
    let session := session.settled
    pure (session, .answer (session.world.events.any (mentions · text)))
  | .request side bytes => pure (session.settled.request side bytes)
  | .secureRequest side bytes => pure (session.settled.secureRequest side bytes)
  | .leaveOpen side bytes => do
    let (session, seen) ← session.settled.exchange side bytes
    match seen with
    | .replies _ => pure (session, .nothing)
    | _ => pure (session, seen)

def advanceAll (session : Session) : List Step → Except IoError (Session × List Seen)
  | [] => pure (session, [])
  | step :: steps => do
    let (session, seen) ← session.advance step
    let (session, later) ← advanceAll session steps
    pure (session, seen :: later)

def close (session : Session) : Session :=
  { session with world := ((session.world.close .primary).close .redirector).settle }

def leftOver? (session : Session) : Option Ending :=
  if session.joined then none else session.ending?

end Session

end WebListener.Lifecycle
