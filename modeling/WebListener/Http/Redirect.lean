import WebListener.Config.Options
import WebListener.Http.Application
import WebListener.Http.Host
-- Sending every plain request to the same host and path on the HTTPS port.
namespace WebListener.Http.Redirect

open Net (Port)

-- The host alone. A bracketed address ends at its closing bracket, a name at its first colon.
def stripPort (host : List Char) : List Char :=
  match host with
  | '[' :: _ =>
    match Text.splitFirst [']'] host with
    | some (before, _) => before ++ [']']
    | none => host
  | _ => host.takeWhile (· ≠ ':')

def portText (port : Port) : List Char :=
  if port = Config.defaultHttpsPort then [] else ':' :: Text.decimalChars port.toNat

def target (host : List Char) (uri : Uri) (port : Port) : List Char :=
  "https://".toList ++ stripPort host ++ portText port ++
    (match uri.target? with
      | some target => target.text
      | none => ['/'])

def missingHost : Response := (Response.plainText 400 "missing Host header").sized

def permanent (location : List Char) : Response :=
  let value := Text.utf8 (.ofList location)
  if value.all isValueByte then { Response.bare 308 with headers := [⟨"location", value⟩] }.sized
  else (Response.plainText 500 RequestFault.headerValue.message).sized

def redirecting (uri : Uri) (location : List Char) : Log.Event :=
  ⟨.debug, .redirector, "Redirecting HTTP to HTTPS",
    [("from", .shown (.ofList uri.text)), ("to", .shown (.ofList location))]⟩

def application (port : Port) : Application := fun request =>
  match request.host? with
  | none => ⟨missingHost.answering request, []⟩
  | some host =>
    let location := target host request.uri port
    ⟨(permanent location).answering request, [redirecting request.uri location]⟩

end WebListener.Http.Redirect
