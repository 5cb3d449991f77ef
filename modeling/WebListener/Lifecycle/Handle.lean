import WebListener.Lifecycle.Exit
import WebListener.Net.BoundAddress
-- The explicit "closed by its owner" signal of one listener. Its state only goes forward: idle,
-- listening, closed.
namespace WebListener.Lifecycle

open Net (BoundAddress)

inductive State where
  | idle
  | listening (address : BoundAddress)
  | closed
deriving DecidableEq, Repr

namespace State

def isClosed : State → Bool
  | .closed => true
  | _ => false

def mark (address : BoundAddress) : State → State
  | .idle => .listening address
  | state => state

def close (_ : State) : State := .closed

def described : State → String
  | .idle => "Idle"
  | .listening address => "Listening(" ++ address.described ++ ")"
  | .closed => "Closed"

end State

-- What a waiter for a bound address sees, and a waiter for the end; a waiter that has had its
-- answer sees nothing more.
inductive Awaited where
  | pending
  | bound (address : BoundAddress)
  | closedFirst
  | closed
  | taken
deriving DecidableEq, Repr

inductive Interest where
  | listening
  | closed
deriving DecidableEq, Repr

def Interest.poll : Interest → State → Awaited
  | .listening, .idle => .pending
  | .listening, .listening address => .bound address
  | .listening, .closed => .closedFirst
  | .closed, .closed => .closed
  | .closed, _ => .pending

end WebListener.Lifecycle
