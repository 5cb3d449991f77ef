import WebListener.Config.Decode
import WebListener.Toml.Document
import WebListener.Toml.Excerpt
-- A configuration from a text or a file. The text has to be a document, then every known value
-- has to have its type, and then automatic certificates need a host. Of a text that is no document
-- only the first words of the message are told, without the place, the excerpt and the reason.
namespace WebListener.Config

open Kernel (FileTree IoError Path)

inductive Fault where
  | unreadable (cause : IoError)
  | malformed
  | mistyped (document : String) (fault : TypeFault)
  | noHosts
deriving DecidableEq, Repr

def Fault.message : Fault → String
  | .unreadable cause => "Failed to read config file: " ++ cause.message
  | .malformed => "Failed to parse config: TOML parse error"
  | .mistyped document fault =>
    "Failed to parse config: " ++ Toml.excerpt document fault.span fault.complaint
  | .noHosts =>
    "Configuration error: letsencrypt-enabled requires at least one entry in letsencrypt-hosts"

def validated (c : Configuration) : Except Fault Configuration :=
  if c.server.lacksHosts then .error .noHosts else .ok c

def parse (document : String) : Except Fault Configuration :=
  match Toml.parse document with
  | none => .error .malformed
  | some entries =>
    match decode entries with
    | .error fault => .error (.mistyped document fault)
    | .ok c => validated c

def load (files : FileTree) (path : Path) : Except Fault Configuration :=
  match files.readText path with
  | .error cause => .error (.unreadable cause)
  | .ok document => parse document

end WebListener.Config
