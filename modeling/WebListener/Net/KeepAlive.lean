import WebListener.Kernel.IoError
import WebListener.Log.Event
import WebListener.Net.SocketAddress
-- Keep-alive probing on an accepted connection, so that a peer which vanished is noticed. It is
-- switched on first and timed afterwards; the kernel takes whole seconds in a bounded range.
namespace WebListener.Net

open Kernel (IoError Errno)

structure Probing where
  enabled : Bool
  idle : Option Nat
  interval : Option Nat
deriving DecidableEq, Repr

namespace Probing

def initial : Probing := ⟨false, none, none⟩

inductive Setting where
  | enabled
  | idle (seconds : Nat)
  | interval (seconds : Nat)
deriving DecidableEq, Repr

def longestTime : Nat := 32767

def timed (seconds : Nat) (probing : Probing) : Except IoError Probing :=
  if 1 ≤ seconds && seconds ≤ longestTime then .ok probing else .error (.os Errno.invalidArgument)

def set (probing : Probing) : Setting → Except IoError Probing
  | .enabled => .ok { probing with enabled := true }
  | .idle seconds => timed seconds { probing with idle := some seconds }
  | .interval seconds => timed seconds { probing with interval := some seconds }

def setAll (probing : Probing) : List Setting → Probing × Option IoError
  | [] => (probing, none)
  | setting :: settings =>
    match probing.set setting with
    | .ok next => next.setAll settings
    | .error e => (probing, some e)

end Probing

namespace KeepAlive

def defaultPeriod : Nat := 180000

-- Whole seconds, as large as a signed 32-bit number can be.
def seconds (millis : Nat) : Nat := min (millis / 1000) 2147483647

def settings (millis : Nat) : List Probing.Setting :=
  [.enabled, .idle (seconds millis), .interval (seconds millis)]

def enable (millis : Nat) (probing : Probing) : Probing × Option IoError :=
  probing.setAll (settings millis)

def notEnabled (peer : Option SocketAddress) (cause : IoError) : Log.Event :=
  ⟨.debug, .keepAlive, "Failed to enable TCP keep-alive", [
    ("error", .shown cause.message),
    ("peer", .shown (match peer with
      | some address => "Some(" ++ address.text ++ ")"
      | none => "None"))]⟩

structure Acceptance (α : Type) where
  probing : Probing
  result : α
  events : List Log.Event

def accept (millis : Nat) (inner : Probing → α) (probing : Probing)
    (peer : Option SocketAddress := none) : Acceptance α :=
  let (probing, failure) := enable millis probing
  ⟨probing, inner probing, (failure.map (notEnabled peer)).toList⟩

end KeepAlive

end WebListener.Net
