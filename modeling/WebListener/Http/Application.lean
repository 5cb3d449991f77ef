import WebListener.Http.Message
import WebListener.Log.Event
-- What answers requests, and the built-in application: one health check.
namespace WebListener.Http

structure Answer where
  response : Response
  events : List Log.Event
deriving DecidableEq, Repr

abbrev Application := Request → Answer

namespace Application

def healthPath : List Char := "/ping".toList

def health (request : Request) : Response :=
  if request.method = "GET" || request.method = "HEAD" then
    (Response.plainText 200 "ok").sized.answering request
  else { Response.bare 405 with headers := [⟨"allow", Text.utf8 "GET,HEAD"⟩] }.sized

def notFound (request : Request) : Response :=
  if request.uri.routePath.head? = some '/' then .bare 404 else (Response.bare 404).sized

def builtIn : Application := fun request =>
  ⟨if request.uri.routePath = healthPath then health request else notFound request, []⟩

end Application

end WebListener.Http
