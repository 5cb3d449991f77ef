import WebListener.Lifecycle.Handle
-- Handles and their clones. A family is what has been cloned, directly or through other clones,
-- from one new handle; it shares one state. Waiters belong to the family of the handle that made
-- them.
namespace WebListener.Lifecycle

open Kernel (IoError)
open Net (BoundAddress)

structure Waiter where
  family : Nat
  interest : Interest
  finished : Bool
deriving DecidableEq, Repr

-- One state a family, one family number a handle.
structure Registry where
  states : List State
  handles : List Nat
  waiters : List Waiter
deriving DecidableEq, Repr

inductive Operation where
  | create
  | clone (handle : Nat)
  | close (handle : Nat)
  | mark (handle : Nat) (address : BoundAddress)
  | isClosed (handle : Nat)
  | look (handle : Nat) (interest : Interest)
  | await (handle : Nat) (interest : Interest)
  | poll (waiter : Nat)
  | finish (handle : Nat) (label bound : String) (failure : Option IoError)
deriving DecidableEq, Repr

inductive Outcome where
  | done
  | made (index : Nat)
  | answer (yes : Bool)
  | saw (awaited : Awaited)
  | finished (exit : Exit) (events : List Log.Event)
deriving DecidableEq, Repr

namespace Registry

def initial : Registry := ⟨[.idle], [0], []⟩

def family? (registry : Registry) (handle : Nat) : Option Nat := registry.handles[handle]?

def state? (registry : Registry) (handle : Nat) : Option State :=
  (registry.family? handle).bind (registry.states[·]?)

def update (registry : Registry) (family : Nat) (f : State → State) : Registry :=
  { registry with states := registry.states.modify family f }

def pollWaiter (registry : Registry) (index : Nat) : Option (Registry × Outcome) := do
  let waiter ← registry.waiters[index]?
  if waiter.finished then some (registry, .saw .taken)
  else
    let state ← registry.states[waiter.family]?
    match waiter.interest.poll state with
    | .pending => some (registry, .saw .pending)
    | seen =>
      some ({ registry with
        waiters := registry.waiters.set index { waiter with finished := true } }, .saw seen)

def advance (registry : Registry) : Operation → Option (Registry × Outcome)
  | .create =>
    some (⟨registry.states ++ [.idle], registry.handles ++ [registry.states.length],
      registry.waiters⟩, .made registry.handles.length)
  | .clone handle => do
    let family ← registry.family? handle
    some ({ registry with handles := registry.handles ++ [family] }, .made registry.handles.length)
  | .close handle => do
    let family ← registry.family? handle
    some (registry.update family State.close, .done)
  | .mark handle address => do
    let family ← registry.family? handle
    some (registry.update family (State.mark address), .done)
  | .isClosed handle => do
    let state ← registry.state? handle
    some (registry, .answer state.isClosed)
  | .look handle interest => do
    let state ← registry.state? handle
    some (registry, .saw (interest.poll state))
  | .await handle interest => do
    let family ← registry.family? handle
    some ({ registry with waiters := registry.waiters ++ [⟨family, interest, false⟩] },
      .made registry.waiters.length)
  | .poll waiter => registry.pollWaiter waiter
  | .finish handle label bound failure => do
    let state ← registry.state? handle
    let exit := classify failure state.isClosed
    some (registry, .finished exit (exit.events label bound))

def described (registry : Registry) (handle : Nat) : Option String :=
  (registry.state? handle).map fun state =>
    "ListenerHandle \x7b state: " ++ state.described ++ " \x7d"

end Registry

end WebListener.Lifecycle
