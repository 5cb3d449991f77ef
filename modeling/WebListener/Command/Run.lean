import WebListener.Command.Texts
import WebListener.Config.Load
import WebListener.Lifecycle.Schedule
import WebListener.Log.Filter
import WebListener.Log.Line
-- One run of the program: its words are read, then its configuration, and then it serves until
-- its listeners are over or a signal closes them.
namespace WebListener.Command

open Config (Configuration Options)
open Kernel (FileTree Path)
open Lifecycle (Ending Signal World)
open Log (Event Filter Format)
open Net (Network)

structure Invocation where
  words : List String
  logFilter : Option String
  files : FileTree
  network : Network

inductive ExitCode where
  | success
  | failure
  | usage
deriving DecidableEq, Repr

def ExitCode.toNat : ExitCode → Nat
  | .success => 0
  | .failure => 1
  | .usage => 2

-- A listener that failed while it served has been reported, and does not make the run a failure.
def ExitCode.ofEnding : Ending → ExitCode
  | .ok _ => .success
  | .error _ => .failure

structure Outcome where
  code : Option ExitCode
  output : String
  errors : String
deriving DecidableEq, Repr

def configPath (arguments : Arguments) : Path := arguments.config.getD Config.defaultConfigPath

def filterText (arguments : Arguments) (logFilter : Option String) : String :=
  (arguments.logLevel.or logFilter).getD Config.defaultLogFilter

def formatOf (logging : Config.Logging) : Format := if logging.isJson then .json else .text

def notLoaded (path : Path) (fault : Config.Fault) : Event :=
  ⟨.error, .program, "FATAL: could not load configuration",
    [("path", .shown path), ("error", .shown fault.message)]⟩

def loaded (options : Options) : Event :=
  ⟨.info, .program, "Loaded configuration", [
    ("mode", .shown options.listenMode.text),
    ("redirect_http_to_https", .flag options.redirectHttpToHttps),
    ("request_logging", .flag options.requestLogging)]⟩

def listenerFailed (error : ListenerError) : Event :=
  ⟨.error, .program, "FATAL: listener failed", [("error", .shown error.message)]⟩

def serve (options : Options) (files : FileTree) (network : Network) (signal : Option Signal) :
    World :=
  let world := ((World.initial options files network).attempt (.launch .listenAndServe)).settle
  match signal, world.result? with
  | some signal, none => world.interrupt signal
  | _, _ => world

def endingEvents : Option Ending → List Event
  | some (.error error) => [listenerFailed error]
  | _ => []

def served (options : Options) (files : FileTree) (network : Network) (signal : Option Signal) :
    Option ExitCode × List Event :=
  let world := serve options files network signal
  (world.result?.map .ofEnding, loaded options :: world.events ++ endingEvents world.result?)

def written (filter : Filter) (format : Format) (events : List Event) : String :=
  lines ((events.filter filter.shows).map format.line)

def runWith (invocation : Invocation) (arguments : Arguments) (signal : Option Signal) : Outcome :=
  let (filter, ignored) := Filter.read (filterText arguments invocation.logFilter)
  let path := configPath arguments
  match Config.load invocation.files path with
  | .error fault =>
    ⟨some .failure, written filter (formatOf .standard) [notLoaded path fault], lines ignored⟩
  | .ok configuration =>
    let (code, events) := served configuration.server invocation.files invocation.network signal
    ⟨code, written filter (formatOf configuration.logging) events, lines ignored⟩

def run (invocation : Invocation) (signal : Option Signal) : Outcome :=
  match Request.ofWords invocation.words with
  | .error complaint => ⟨some .usage, "", complaint.text⟩
  | .ok (.tell name) => ⟨some .success, name.answer, ""⟩
  | .ok (.run arguments) => runWith invocation arguments signal

end WebListener.Command
