import WebListener.Proofs.Http.Indifference
-- What the access log does to an application: nothing to its answers and nothing to its own events.
-- It adds one event behind them, and that event says what was asked and how it was answered.
namespace WebListener.Http

open Log (Event)
open Net (Port)

variable {event : Event} {request : Request} {status : Nat}

inductive Router where
  | builtIn
  | redirector (port : Port)

def Router.application : Router → Application
  | .builtIn => Application.builtIn
  | .redirector port => Redirect.application port

def isAccess (event : Event) : Bool := event.level = .info && event.message = "access"

structure Reports (event : Event) (request : Request) (status : Nat) : Prop where
  access : isAccess event = true
  peer : ∀ address, request.remote = some address →
    event.fields.lookup "remote" = some (.shown address.text)
  peerless : request.remote = none → event.fields.lookup "remote" = some (.shown "-")
  host : ∀ host, Names request host → event.fields.lookup "host" = some (.shown (.ofList host))
  hostless : Hostless request → event.fields.lookup "host" = some (.shown "-")
  method : event.fields.lookup "method" = some (.shown request.method)
  uri : event.fields.lookup "uri" = some (.shown (.ofList request.uri.text))
  version : event.fields.lookup "version" = some (.shown request.version.text)
  status : event.fields.lookup "status" = some (.number status)

theorem event_reports (request : Request) (status : Nat) :
    Reports (AccessLog.event request status) request status where
  access := rfl
  peer := by
    intro address known
    unfold AccessLog.event
    rw [known]
    rfl
  peerless := by
    intro unknown
    unfold AccessLog.event
    rw [unknown]
    rfl
  host := by
    intro host names
    unfold AccessLog.event
    rw [names_exact.mpr names]
    rfl
  hostless := by
    intro hostless
    unfold AccessLog.event
    rw [hostless_exact.mpr hostless]
    rfl
  method := rfl
  uri := rfl
  version := rfl
  status := rfl

theorem Reports.dash_iff (reports : Reports event request status) :
    event.fields.lookup "host" = some (.shown "-") ∧ ¬Names request ['-'] ↔ Hostless request := by
  constructor
  · intro dash
    cases named : request.host? with
    | none => exact hostless_exact.mp named
    | some host =>
      have names := names_exact.mp named
      have shown := reports.host host names
      rw [dash.1, Option.some.injEq, Log.Value.shown.injEq] at shown
      have own : ['-'] = host := by simpa using congrArg String.toList shown
      exact absurd (own ▸ names) dash.2
  · intro hostless
    refine ⟨reports.hostless hostless, ?_⟩
    intro names
    have named := names_exact.mpr names
    rw [hostless_exact.mpr hostless] at named
    cases named

namespace Redirect

theorem application_events {port : Port} (present : event ∈ (application port request).events) :
    ∃ location, event = redirecting request.uri location := by
  unfold application at present
  split at present
  · cases present
  · rename_i host named
    exact ⟨target host request.uri port, List.mem_singleton.mp present⟩

theorem permanent_status (cs : List Char) :
    (permanent cs).status = 308 ∨ (permanent cs).status = 500 := by
  unfold permanent
  dsimp only
  split
  · exact .inl rfl
  · exact .inr rfl

theorem application_refuses_iff (port : Port) :
    (application port request).response.status = 400 ↔ Hostless request := by
  constructor
  · intro refused
    cases named : request.host? with
    | none => exact hostless_exact.mp named
    | some host =>
      rw [application_named (names_exact.mp named), (answering_parts _ _).1] at refused
      rcases permanent_status (target host request.uri port) with sent | failed
      · rw [sent] at refused
        cases refused
      · rw [failed] at refused
        cases refused
  · intro hostless
    exact application_refuses hostless port

end Redirect

theorem Router.unreported (router : Router) (request : Request) :
    ∀ event ∈ (router.application request).events, isAccess event = false := by
  intro event present
  cases router with
  | builtIn => cases present
  | redirector port =>
    obtain ⟨location, same⟩ := Redirect.application_events present
    rw [same]
    rfl

-- Whichever of the two answers, the host that is reported is the one that a redirect of the same
-- request would be made from.
theorem access_log_adds_true_event (router : Router) (request : Request) :
    let plain := router.application request
    let logged := AccessLog.around router.application true request
    AccessLog.around router.application false request = plain ∧
    logged.response = plain.response ∧
    ∃ event, logged.events = plain.events ++ [event] ∧ logged.events.filter isAccess = [event] ∧
      Reports event request plain.response.status ∧
      ∀ port,
        let redirect := ((Router.redirector port).application request).response
        (∀ bytes host, Uri.ofBytes bytes = .ok request.uri → Names request host →
          event.fields.lookup "host" = some (.shown (.ofList host)) ∧
          redirect.headers.filter (·.name = "location") =
            [⟨"location", Text.utf8 (.ofList (Redirect.target host request.uri port))⟩]) ∧
        (event.fields.lookup "host" = some (.shown "-") ∧ ¬Names request ['-'] ↔
          redirect.status = 400) := by
  intro plain logged
  have reports := event_reports request plain.response.status
  have others : plain.events.filter isAccess = [] := by
    rw [List.filter_eq_nil_iff]
    intro event present
    simp [router.unreported request event present]
  have whole : logged.events = plain.events ++ [AccessLog.event request plain.response.status] :=
    rfl
  refine ⟨rfl, around_response router.application true request, _, whole, ?_, reports, ?_⟩
  · rw [whole, List.filter_append, others]
    rfl
  · intro port redirect
    constructor
    · intro bytes host accepted names
      exact ⟨reports.host host names,
        (Redirect.application_sends names (Uri.ofBytes_clean accepted) port).2.2⟩
    · rw [reports.dash_iff]
      exact (Redirect.application_refuses_iff port).symm

end WebListener.Http
