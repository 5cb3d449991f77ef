-- What the listeners report while they run: a level, the part that speaks, a message and named
-- values in the order in which they are given.
namespace WebListener.Log

inductive Level where
  | error
  | warn
  | info
  | debug
  | trace
deriving DecidableEq, Repr

def Level.text : Level → String
  | .error => "ERROR"
  | .warn => "WARN"
  | .info => "INFO"
  | .debug => "DEBUG"
  | .trace => "TRACE"

inductive Origin where
  | program
  | server
  | redirector
  | shutdown
  | requests
  | keepAlive
deriving DecidableEq, Repr

def Origin.target : Origin → String
  | .program => "gatehouse"
  | .server => "gatehouse::http::server"
  | .redirector => "gatehouse::http::redirect"
  | .shutdown => "gatehouse::http::shutdown"
  | .requests => "gatehouse::middleware"
  | .keepAlive => "gatehouse::http::keepalive"

inductive Value where
  | shown (text : String)
  | label (text : String)
  | number (n : Nat)
  | flag (b : Bool)
deriving DecidableEq, Repr

def Value.text : Value → String
  | .shown text | .label text => text
  | .number n => toString n
  | .flag true => "true"
  | .flag false => "false"

structure Event where
  level : Level
  origin : Origin
  message : String
  fields : List (String × Value)
deriving DecidableEq, Repr

end WebListener.Log
