import WebListener.Lifecycle.Exit
import WebListener.Lifecycle.Handle
import WebListener.Lifecycle.Startup
-- One listener beside any number of others who close it, one step at a time. Closing takes two
-- steps: the closed state is published first, and the serve loop is signalled after it.
namespace WebListener.Lifecycle

open Kernel (IoError)
open Net (BoundAddress)

inductive Phase where
  | absent
  | ready
  | refused (error : ListenerError)
  | bound (listener : Bound)
  | serving (listener : Bound)
  | stopped (listener : Bound) (failure : Option IoError)
  | exited (listener : Bound) (exit : Exit)
  | dropped (listener : Option Bound)
  | aborted (listener : Option Bound) (reason : String)
deriving DecidableEq, Repr

namespace Phase

def listener? : Phase → Option Bound
  | .bound l | .serving l | .stopped l _ | .exited l _ => some l
  | .dropped l | .aborted l _ => l
  | .absent | .ready | .refused _ => none

def held? : Phase → Option BoundAddress
  | .bound l | .serving l => some l.address
  | _ => none

def isLive : Phase → Bool
  | .ready | .bound _ | .serving _ | .stopped .. => true
  | _ => false

def isWaiting : Phase → Bool
  | .ready | .serving _ => true
  | _ => false

-- The task beside a listener goes on until the listener is over, and for good where it was dropped.
def isAttended : Phase → Bool
  | .serving _ | .stopped .. | .dropped (some _) => true
  | _ => false

end Phase

-- The handle of a listener, the closers that have published but not yet signalled, whether any
-- has signalled, and the listener itself.
structure Lane where
  handle : State
  owed : Nat
  signalled : Bool
  phase : Phase
deriving DecidableEq, Repr

namespace Lane

def initial : Lane := ⟨.idle, 0, false, .absent⟩

inductive Action where
  | publishClose
  | signalClose
  | launch
  | bind (outcome : Except ListenerError Bound)
  | publish
  | stop (failure : Option IoError)
  | finish
  | drop
  | abort (reason : String)

-- A loop on TCP ends well only when it was signalled, and one on a local socket only when its
-- handle is closed. Any loop may fail at any time.
def mayStop (lane : Lane) (listener : Bound) (failure : Option IoError) : Bool :=
  match failure, listener.address with
  | some _, _ => true
  | none, .tcp _ => lane.signalled
  | none, .unix _ => lane.handle.isClosed

def allowed (lane : Lane) : Action → Bool
  | .publishClose => true
  | .signalClose => 0 < lane.owed
  | .launch => lane.phase == .absent
  | .bind _ => lane.phase == .ready
  | .publish =>
    match lane.phase with
    | .bound _ => true
    | _ => false
  | .stop failure =>
    match lane.phase with
    | .serving listener => lane.mayStop listener failure
    | _ => false
  | .finish =>
    match lane.phase with
    | .stopped .. => true
    | _ => false
  | .drop | .abort _ => lane.phase.isLive

def apply (lane : Lane) : Action → Lane
  | .publishClose => { lane with handle := lane.handle.close, owed := lane.owed + 1 }
  | .signalClose => { lane with owed := lane.owed - 1, signalled := true }
  | .launch => { lane with phase := .ready }
  | .bind (.error error) => { lane with phase := .refused error }
  | .bind (.ok listener) => { lane with phase := .bound listener }
  | .publish =>
    match lane.phase with
    | .bound listener =>
      { lane with handle := lane.handle.mark listener.address, phase := .serving listener }
    | _ => lane
  | .stop failure =>
    match lane.phase with
    | .serving listener => { lane with phase := .stopped listener failure }
    | _ => lane
  | .finish =>
    match lane.phase with
    | .stopped listener failure =>
      { lane with phase := .exited listener (classify failure lane.handle.isClosed) }
    | _ => lane
  | .drop => { lane with phase := .dropped lane.phase.listener? }
  | .abort reason => { lane with phase := .aborted lane.phase.listener? reason }

def emitted (lane : Lane) : Action → List Log.Event
  | .finish =>
    match lane.phase with
    | .stopped listener failure =>
      (classify failure lane.handle.isClosed).events listener.label listener.address.text
    | _ => []
  | _ => []

def execute (lane : Lane) (action : Action) : Option Lane :=
  if lane.allowed action then some (lane.apply action) else none

def run : Lane → List Action → Option Lane
  | lane, [] => some lane
  | lane, action :: rest => (lane.execute action).bind (run · rest)

end Lane

end WebListener.Lifecycle
