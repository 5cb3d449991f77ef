import WebListener.Kernel.IoError
import WebListener.Log.Event
-- How a serve loop that was started ended. An error that comes after a deliberate close is the
-- ordinary way to stop and is not reported.
namespace WebListener.Lifecycle

open Kernel (IoError)
open Log (Event)

inductive Exit where
  | closed
  | failed (cause : IoError)
deriving DecidableEq, Repr

def Exit.isClosed : Exit → Bool
  | .closed => true
  | .failed _ => false

def classify (failure : Option IoError) (handleClosed : Bool) : Exit :=
  match failure with
  | none => .closed
  | some cause => if handleClosed then .closed else .failed cause

def serveFailed (label : String) (cause : IoError) : Event :=
  ⟨.error, .server, "Serve failed", [("listener", .label label), ("error", .shown cause.message)]⟩

def closing (label bound : String) : Event :=
  ⟨.info, .server, "Closing listener", [("listener", .label label), ("address", .shown bound)]⟩

def Exit.events (exit : Exit) (label bound : String) : List Event :=
  match exit with
  | .closed => [closing label bound]
  | .failed cause => [serveFailed label cause, closing label bound]

end WebListener.Lifecycle
