import WebListener.Kernel.FileTree
import WebListener.Net.Bind
import WebListener.Text.Quoted
import WebListener.Tls.Fault
-- Why a listener could not start, or why the redirector beside it failed. Each error names its
-- cause, and the text of an error ends with the text of its cause.
namespace WebListener

open Kernel (IoError Path)
open Tls (TlsFault MaterialFault)

inductive ListenerError where
  | address (address : String) (fault : Net.AddressFault)
  | unsupportedTransport (network : String)
  | bind (network address : String) (cause : IoError)
  | certificate (certFile keyFile : Option Path) (fault : MaterialFault)
  | tls (cause : TlsFault)
  | acmeCache (directory : Path) (cause : IoError)
  | serve (cause : IoError)
  | redirector (cause : ListenerError)
  | redirectorTask (reason : String)
deriving DecidableEq, Repr

namespace ListenerError

def pathText (path : Option Path) : String := path.getD "<unset>"

def message : ListenerError → String
  | .address text fault =>
    "could not parse listen address " ++ Text.quoted text ++ ": " ++ fault.message
  | .unsupportedTransport network => "unsupported transport " ++ Text.quoted network
  | .bind network text cause =>
    "listen (" ++ network ++ ", " ++ text ++ ") failed - " ++ cause.message
  | .certificate certFile keyFile fault =>
    "loading tls config (" ++ pathText certFile ++ ", " ++ pathText keyFile ++ ") failed - " ++
      fault.message
  | .tls cause => "TLS configuration error: " ++ cause.message
  | .acmeCache directory cause =>
    "failed to create ACME cache directory " ++ directory ++ ": " ++ cause.message
  | .serve cause => "serve failed: " ++ cause.message
  | .redirector cause => "HTTPS redirector failed: " ++ cause.message
  | .redirectorTask reason => "HTTPS redirector task aborted: " ++ reason

inductive Cause where
  | listener (error : ListenerError)
  | io (error : IoError)
  | tls (fault : TlsFault)
deriving DecidableEq, Repr

def Cause.message : Cause → String
  | .listener error => error.message
  | .io error => error.message
  | .tls fault => fault.message

def cause? : ListenerError → Option Cause
  | .bind _ _ cause | .acmeCache _ cause | .serve cause => some (.io cause)
  | .tls cause => some (.tls cause)
  | .redirector cause => some (.listener cause)
  | _ => none

def causes : ListenerError → List Cause
  | .redirector cause => .listener cause :: cause.causes
  | error => error.cause?.toList

def parseAddress (raw : String) : Except ListenerError Net.ListenAddress :=
  (Net.ListenAddress.parse raw).mapError (.address (Text.trim raw))

def transportOf (address : Net.ListenAddress) : Except ListenerError Net.Transport :=
  match address.transport? with
  | some transport => .ok transport
  | none => .error (.unsupportedTransport address.network)

def bindTcp (address : Net.ListenAddress) (family : Net.IpFamily) (network : Net.Network) :
    Except ListenerError Net.SocketAddress :=
  (address.bindTcp family network).mapError (.bind address.network address.address)

end ListenerError

end WebListener
