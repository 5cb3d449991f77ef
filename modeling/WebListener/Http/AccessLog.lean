import WebListener.Http.Application
import WebListener.Http.Host
-- One event for each answered request. Of a request without a known peer, or without a host, it
-- says so with a dash. Two fields are left out, since they depend on chance and on the clock: the id
-- in front and the time that the answer took at the end.
namespace WebListener.Http.AccessLog

def event (request : Request) (status : Nat) : Log.Event :=
  ⟨.info, .requests, "access", [
    ("remote", .shown (match request.remote with
      | some address => address.text
      | none => "-")),
    ("host", .shown (match request.host? with
      | some host => .ofList host
      | none => "-")),
    ("method", .shown request.method),
    ("uri", .shown (.ofList request.uri.text)),
    ("version", .shown request.version.text),
    ("status", .number status)]⟩

def around (application : Application) (enabled : Bool) : Application := fun request =>
  let answer := application request
  if enabled then
    { answer with events := answer.events ++ [event request answer.response.status] }
  else answer

end WebListener.Http.AccessLog
