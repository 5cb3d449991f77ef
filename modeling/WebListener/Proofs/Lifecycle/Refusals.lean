import WebListener.Lifecycle.Startup
import WebListener.Proofs.Outcomes
-- Which errors a start can be refused with. A start never reports a failure of serving, and never
-- speaks for the redirector's task.
namespace WebListener

namespace ListenerError

def IsRefusal : ListenerError → Prop
  | .serve _ | .redirector _ | .redirectorTask _ => False
  | _ => True

def IsBind : ListenerError → Prop
  | .bind .. => True
  | _ => False

theorem IsBind.refusal {error : ListenerError} (bind : error.IsBind) : error.IsRefusal := by
  cases error <;> first | exact bind | trivial

variable {error : ListenerError} {address : Net.ListenAddress}

theorem parseAddress_refusal (refused : parseAddress raw = .error error) : error.IsRefusal := by
  obtain ⟨fault, -, rfl⟩ := mapError_error_iff.mp refused
  trivial

theorem transportOf_refusal (refused : transportOf address = .error error) :
    error.IsRefusal := by
  unfold transportOf at refused
  split at refused <;> cases refused
  trivial

theorem bindTcp_refusal (refused : bindTcp address family network = .error error) :
    error.IsBind := by
  obtain ⟨cause, -, rfl⟩ := mapError_error_iff.mp refused
  trivial

end ListenerError

namespace Lifecycle.Startup

open Config (Options)

variable {world : Environment} {error : ListenerError}

theorem after_outcome (events : List Log.Event) (startup : Startup) :
    (after events startup).outcome = startup.outcome := rfl

theorem attended_parts (reports : List Net.Issuance) (startup : Startup) :
    (attended reports startup).outcome = startup.outcome ∧
      (attended reports startup).events = startup.events := by
  unfold attended
  split
  · exact ⟨rfl, rfl⟩
  · exact ⟨rfl, rfl⟩

theorem bindTcp_refusal
    (refused : (bindTcp world label address family listening).outcome = .error error) :
    error.IsBind := by
  unfold bindTcp at refused
  split at refused
  · rename_i cause bound
    cases refused
    exact ListenerError.bindTcp_refusal bound
  · cases refused

theorem unix_refusal (refused : (unix world path).outcome = .error error) : error.IsBind := by
  unfold unix at refused
  split at refused <;> cases refused
  trivial

theorem http_refusal (refused : (http address world).outcome = .error error) :
    error.IsRefusal := by
  unfold http at refused
  split at refused
  · rename_i cause parsed
    cases refused
    exact ListenerError.parseAddress_refusal parsed
  · split at refused
    · rename_i cause chosen
      cases refused
      exact ListenerError.transportOf_refusal chosen
    · exact (unix_refusal refused).refusal
    · exact (bindTcp_refusal refused).refusal

theorem bindHttps_refusal (refused : (bindHttps address world).outcome = .error error) :
    error.IsRefusal := by
  unfold bindHttps at refused
  exact (bindTcp_refusal refused).refusal

theorem static_refusal (refused : (static certFile keyFile address world).outcome = .error error) :
    error.IsRefusal := by
  unfold static at refused
  split at refused
  · cases refused
    trivial
  · exact bindHttps_refusal refused

theorem automatic_refusal (refused : (automatic settings address world).outcome = .error error) :
    error.IsRefusal := by
  unfold automatic at refused
  rw [after_outcome] at refused
  split at refused
  · cases refused
    trivial
  · rw [(attended_parts _ _).1] at refused
    exact bindHttps_refusal refused

theorem https_refusal (refused : (https options world).outcome = .error error) :
    error.IsRefusal := by
  unfold https at refused
  split at refused
  · exact static_refusal refused
  · exact automatic_refusal refused

theorem primary_refusal (refused : (primary options world).outcome = .error error) :
    error.IsRefusal := by
  unfold primary at refused
  split at refused
  · exact http_refusal refused
  · exact https_refusal refused

theorem redirector_refusal (refused : (redirector options world).outcome = .error error) :
    error.IsBind := by
  unfold redirector at refused
  exact bindTcp_refusal refused

end Lifecycle.Startup

end WebListener
