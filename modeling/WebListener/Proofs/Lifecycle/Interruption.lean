import WebListener.Proofs.Lifecycle.Publishing
import WebListener.Proofs.Lifecycle.SocketLifetime
import WebListener.Proofs.Lifecycle.Undisturbed
-- A signal ends an undisturbed run. In whatever order the signal task, the two listeners and the
-- call take their steps, only so many are left, and when none is left both handles are closed and
-- the call has returned that its listener was closed.
namespace WebListener.Lifecycle

open Config (Options)
open Kernel (FileTree IoError)
open Log (Event)
open Net (Network)

namespace World

variable {world last : World} {move : Move} {moves : List Move} {side : Side}

-- The moves of the listeners, the call and the signal task themselves. The others come from
-- outside, and so does the error that a serve loop ends with.
def isOwn : Move → Bool
  | .launch _ | .touch _ | .receive _ | .abort _ => false
  | .start _ | .publish _ | .stop .. | .finish _ | .report | .observe | .closeNext => true

def Engaged (world : World) : Prop := world.Joint ∨ world.Alone

namespace Engaged

theorem preserved (engaged : Engaged world) (allowed : world.allowed move = true) :
    Engaged (world.apply move) :=
  engaged.imp (·.preserved allowed) (·.preserved allowed)

theorem launch (world : World) : Engaged (world.launch .listenAndServe) := by
  cases enabled : world.options.redirectHttpToHttps with
  | true => exact .inl (launch_joint enabled)
  | false =>
    rw [launch_disabled enabled]
    exact .inr (launch_alone world)

theorem called (engaged : Engaged world) : world.call ≠ .idle := by
  intro idle
  rcases engaged with joint | alone
  · cases joint with
    | both call | alone call | settled call | failed call | aborted call =>
      rw [idle] at call
      cases call
  · cases alone with
    | waiting call | settled call => rw [idle] at call; cases call

theorem closed (engaged : Engaged world) (unfailing : Unfailing world)
    (returned : world.result? = some ending) : ending = .ok .closed := by
  have call := result_exact.mp returned
  have phase := (unfailing.lane .primary).phase
  rcases engaged with joint | alone
  · cases joint with
    | both before | alone before => rw [before] at call; cases call
    | settled before ended =>
      rw [before] at call
      cases call
      exact phase.ended ended
    | failed before gone | aborted before gone =>
      rw [lane, gone] at phase
      cases phase
  · cases alone with
    | waiting before => rw [before] at call; cases call
    | settled before ended =>
      rw [before] at call
      cases call
      exact phase.ended ended

end Engaged

def told (world : World) : List Event :=
  Command.loaded world.options :: world.events ++ Command.endingEvents world.result?

theorem interrupted (interrupting : world.Interrupting) (spent : world.shutdown = some [])
    (side : Side) : (world.lane side).handle = .closed ∧ (world.lane side).signalled = true := by
  obtain ⟨done, order, made⟩ := interrupting [] spent
  rw [List.append_nil] at order
  subst order
  exact made (.signal side) (by cases side <;> simp [closeAll])

structure Interrupted (world : World) : Prop where
  engaged : Engaged world
  unfailing : Unfailing world
  received : world.shutdown ≠ none

namespace Interrupted

theorem received_kept (received : world.shutdown ≠ none) (move : Move) :
    (world.apply move).shutdown ≠ none := by
  rw [(world.apply_rest move).2]
  split
  · exact Option.some_ne_none _
  · simpa using received
  · exact received

theorem preserved (interrupted : Interrupted world) (allowed : world.allowed move = true)
    (quiet : world.undisturbed move = true) : Interrupted (world.apply move) :=
  ⟨interrupted.engaged.preserved allowed, unfailing_preserved interrupted.unfailing allowed quiet,
    received_kept interrupted.received move⟩

end Interrupted

end World

def issuing : Options :=
  { Options.standard with
    letsencryptEnabled := true, letsencryptHosts := ["example.com"], redirectHttpToHttps := true }

end WebListener.Lifecycle
