import WebListener.Lifecycle.Lane
-- The primary listener and the redirector beside it, with the call that waits for them and the
-- task that closes both on a signal. Any order of allowed moves is a run.
namespace WebListener.Lifecycle

open Config (Options)
open Kernel (FileTree IoError)
open Log (Event)
open Net (BoundAddress Issuance Network)

inductive Side where
  | primary
  | redirector
deriving DecidableEq, Repr

def Side.other : Side → Side
  | .primary => .redirector
  | .redirector => .primary

abbrev Ending := Except ListenerError Exit

def endingOf : Side → Phase → Option Ending
  | _, .refused error => some (.error error)
  | .primary, .exited _ exit => some (.ok exit)
  | .redirector, .exited _ .closed => some (.ok .closed)
  | .redirector, .exited _ (.failed cause) => some (.error (.serve cause))
  | _, _ => none

inductive Call where
  | idle
  | both
  | primaryOnly
  | returned (ending : Ending)

def Call.isWaiting : Call → Bool
  | .both | .primaryOnly => true
  | .idle | .returned _ => false

inductive Signal where
  | terminate
  | interrupt
deriving DecidableEq, Repr

def Signal.received : Signal → Event
  | .terminate => ⟨.info, .shutdown, "Received SIGTERM, closing listeners", []⟩
  | .interrupt => ⟨.info, .shutdown, "Received Ctrl+C, closing listeners", []⟩

inductive Touch where
  | publish (side : Side)
  | signal (side : Side)
deriving DecidableEq, Repr

def closeAll : List Touch :=
  [.publish .primary, .signal .primary, .publish .redirector, .signal .redirector]

-- `background` is what the primary listener still has to report beside its serving, `shutdown`
-- what the signal task still has to do once it has its signal.
structure World where
  options : Options
  files : FileTree
  network : Network
  primary : Lane
  redirector : Lane
  call : Call
  background : List Issuance
  shutdown : Option (List Touch)
  events : List Event

inductive Launch where
  | listenAndServe
  | primary
  | redirector
deriving DecidableEq, Repr

inductive Move where
  | launch (what : Launch)
  | touch (touch : Touch)
  | start (side : Side)
  | publish (side : Side)
  | stop (side : Side) (failure : Option IoError)
  | finish (side : Side)
  | report
  | observe
  | abort (reason : String)
  | receive (signal : Signal)
  | closeNext
deriving DecidableEq, Repr

namespace World

def initial (options : Options) (files : FileTree) (network : Network) : World :=
  ⟨options, files, network, .initial, .initial, .idle, [], none, []⟩

def lane (world : World) : Side → Lane
  | .primary => world.primary
  | .redirector => world.redirector

def setLane (world : World) (side : Side) (lane : Lane) : World :=
  match side with
  | .primary => { world with primary := lane }
  | .redirector => { world with redirector := lane }

def act (world : World) (side : Side) (action : Lane.Action) : World :=
  world.setLane side ((world.lane side).apply action)

def tell (world : World) (events : List Event) : World :=
  { world with events := world.events ++ events }

-- The caller takes the primary listener's steps itself, so these end with the call.
def runs (world : World) : Side → Bool
  | .primary => world.call.isWaiting
  | .redirector => true

def environment (world : World) (side : Side) : Environment :=
  match (world.lane side.other).phase.held? with
  | some (.tcp address) => ⟨world.files, world.network.occupied address⟩
  | _ => ⟨world.files, world.network⟩

def startup (world : World) (side : Side) : Startup :=
  match side with
  | .primary => .primary world.options (world.environment side)
  | .redirector => .redirector world.options (world.environment side)

def touchAction : Touch → Side × Lane.Action
  | .publish side => (side, .publishClose)
  | .signal side => (side, .signalClose)

def allowed (world : World) : Move → Bool
  | .launch .redirector => world.redirector.allowed .launch
  | .launch .primary => world.primary.allowed .launch
  | .launch .listenAndServe =>
    world.primary.allowed .launch &&
      (!world.options.redirectHttpToHttps || world.redirector.allowed .launch)
  | .touch touch => let (side, action) := touchAction touch; (world.lane side).allowed action
  | .start side => world.runs side && (world.lane side).phase == .ready
  | .publish side => world.runs side && (world.lane side).allowed .publish
  | .stop side failure => world.runs side && (world.lane side).allowed (.stop failure)
  | .finish side => world.runs side && (world.lane side).allowed .finish
  | .report => world.primary.phase.isAttended && !world.background.isEmpty
  | .observe =>
    match world.call with
    | .both => world.primary.phase.isWaiting && !world.redirector.phase.isLive
    | _ => false
  | .abort reason => world.redirector.allowed (.abort reason)
  | .receive _ => world.shutdown.isNone
  | .closeNext =>
    match world.shutdown with
    | some (_ :: _) => true
    | _ => false

def launch (world : World) : Launch → World
  | .listenAndServe =>
    if world.options.redirectHttpToHttps then
      { (world.act .primary .launch).act .redirector .launch with call := .both }
    else { world.act .primary .launch with call := .primaryOnly }
  | .primary => { world.act .primary .launch with call := .primaryOnly }
  | .redirector => world.act .redirector .launch

def settleCall (world : World) : World :=
  match endingOf .primary world.primary.phase with
  | some ending => { world with call := .returned ending }
  | none => world

def start (world : World) (side : Side) : World :=
  let startup := world.startup side
  let next := (({ world with files := startup.files }).tell startup.events).act side
    (.bind startup.outcome)
  match side with
  | .primary => { next with background := startup.background }.settleCall
  | .redirector => next

def removeFailed (path : Kernel.Path) (cause : IoError) : Event :=
  ⟨.debug, .server, "Failed to remove unix socket",
    [("path", .shown path), ("error", .shown cause.message)]⟩

def tidy (world : World) : BoundAddress → World
  | .tcp _ => world
  | .unix path =>
    match world.files.remove path with
    | .ok files => { world with files := files }
    | .error cause => world.tell [removeFailed path cause]

def finish (world : World) (side : Side) : World :=
  let lane := world.lane side
  let next := (world.tell (lane.emitted .finish)).act side .finish
  match side, lane.phase.listener? with
  | .primary, some listener => (next.tidy listener.address).settleCall
  | _, _ => next

-- What the caller makes of a redirector that is over: a failure ends the call and drops the
-- primary listener where it stands, a deliberate close leaves it alone.
def observe (world : World) : World :=
  let failed (error : ListenerError) : World :=
    { world.act .primary .drop with call := .returned (.error error) }
  match world.redirector.phase, endingOf .redirector world.redirector.phase with
  | .aborted _ reason, _ => failed (.redirectorTask reason)
  | _, some (.error error) => failed (.redirector error)
  | _, _ => { world with call := .primaryOnly }

def apply (world : World) : Move → World
  | .launch what => world.launch what
  | .touch touch => let (side, action) := touchAction touch; world.act side action
  | .start side => world.start side
  | .publish side => world.act side .publish
  | .stop side failure => world.act side (.stop failure)
  | .finish side => world.finish side
  | .report =>
    { world.tell ((world.background.take 1).map Issuance.event) with
      background := Issuance.later world.background }
  | .observe => world.observe
  | .abort reason => world.act .redirector (.abort reason)
  | .receive signal => { world.tell [signal.received] with shutdown := some closeAll }
  | .closeNext =>
    match world.shutdown with
    | some (touch :: rest) =>
      let (side, action) := touchAction touch
      { world.act side action with shutdown := some rest }
    | _ => world

def execute (world : World) (move : Move) : Option World :=
  if world.allowed move then some (world.apply move) else none

def run : World → List Move → Option World
  | world, [] => some world
  | world, move :: rest => (world.execute move).bind (run · rest)

def result? (world : World) : Option Ending :=
  match world.call with
  | .returned ending => some ending
  | _ => none

end World

end WebListener.Lifecycle
