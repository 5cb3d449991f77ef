import WebListener.Kernel.SocketFile
import WebListener.ListenerError
import WebListener.Log.Event
import WebListener.Net.BoundAddress
import WebListener.Text.Quoted
import WebListener.Tls.Material
-- What a listener does before it serves. Everything it needs is made first and the socket is
-- bound last, so that a listener which cannot start never held a socket.
namespace WebListener.Lifecycle

open Config (Options AcmeSettings)
open Kernel (FileTree Path)
open Log (Event)
open Net (BoundAddress Issuance ListenAddress Network)

structure Environment where
  files : FileTree
  network : Network

structure Bound where
  label : String
  address : BoundAddress
deriving DecidableEq, Repr

-- What a start reports, what is left to be reported beside the listener, what became of the files,
-- and whether there is a listener.
structure Startup where
  events : List Event
  background : List Issuance
  files : FileTree
  outcome : Except ListenerError Bound

namespace Startup

def refused (world : Environment) (error : ListenerError) : Startup :=
  ⟨[], [], world.files, .error error⟩

def after (events : List Event) (startup : Startup) : Startup :=
  { startup with events := events ++ startup.events }

-- Only a listener that has its socket leaves something to be reported beside it.
def attended (reports : List Issuance) (startup : Startup) : Startup :=
  match startup.outcome with
  | .error _ => startup
  | .ok _ => { startup with background := reports }

def bindTcp (world : Environment) (label : String) (address : ListenAddress)
    (family : Net.IpFamily) (listening : Net.SocketAddress → Event) : Startup :=
  match ListenerError.bindTcp address family world.network with
  | .error e => refused world e
  | .ok bound => ⟨[listening bound], [], world.files, .ok ⟨label, .tcp bound⟩⟩

def httpListening (network : Log.Value) (address : String) : Event :=
  ⟨.info, .server, "HTTP: listening", [("network", network), ("address", .shown address)]⟩

def httpLabel : String := "HTTP"

def unix (world : Environment) (path : Path) : Startup :=
  match world.files.bindSocket path with
  | .error e => refused world (.bind "unix" path e)
  | .ok files =>
    ⟨[httpListening (.label "unix") path], [], files, .ok ⟨httpLabel, .unix path⟩⟩

def http (httpAddress : String) (world : Environment) : Startup :=
  match ListenerError.parseAddress httpAddress with
  | .error e => refused world e
  | .ok address =>
    match ListenerError.transportOf address with
    | .error e => refused world e
    | .ok (.unix path) => unix world path
    | .ok (.tcp family) =>
      bindTcp world httpLabel address family
        (fun _ => httpListening (.shown address.network) address.address)

def httpsListening (bound : Net.SocketAddress) : Event :=
  ⟨.info, .server, "HTTPS: listening", [("address", .shown bound.text)]⟩

def bindHttps (httpsAddress : String) (world : Environment) : Startup :=
  bindTcp world "HTTPS" (.tcp httpsAddress) .any httpsListening

def static (certFile keyFile : Option Path) (httpsAddress : String) (world : Environment) :
    Startup :=
  match Tls.Material.load world.files certFile keyFile with
  | .error fault => refused world (.certificate certFile keyFile fault)
  | .ok _ => bindHttps httpsAddress world

def configuring (settings : AcmeSettings) : Event :=
  ⟨.info, .server, "Configuring ACME certificates", [
    ("hosts", .shown (Text.quotedList settings.hosts)), ("cache", .shown settings.cacheDir),
    ("environment", .shown settings.environment)]⟩

def stagingWarning : Event :=
  ⟨.warn, .server,
    "Using Let's Encrypt staging environment - certificates will NOT be trusted by browsers", []⟩

def automatic (settings : AcmeSettings) (httpsAddress : String) (world : Environment) : Startup :=
  let told := configuring settings :: (if settings.production then [] else [stagingWarning])
  let cache := world.files.makeDirectories settings.cacheDir
  let made := { world with files := cache.files }
  after told <|
    match cache.failure with
    | some e => refused made (.acmeCache settings.cacheDir e)
    | none =>
      attended (world.network.authority settings cache.files) (bindHttps httpsAddress made)

def pathsIgnored : Event :=
  ⟨.warn, .server, "letsencrypt-enabled is set; ignoring tls-cert-file and tls-key-file", []⟩

def https (options : Options) (world : Environment) : Startup :=
  match options.certificateSource with
  | .static certFile keyFile => static certFile keyFile options.httpsAddress world
  | .automatic settings => automatic settings options.httpsAddress world

def primary (options : Options) (world : Environment) : Startup :=
  match options.listenMode with
  | .http => http options.httpAddress world
  | .https =>
    after (if options.staticPathsIgnored then [pathsIgnored] else []) (https options world)

def redirectorListening (address : String) (httpsPort : Net.Port) : Event :=
  ⟨.info, .redirector, "HTTPS redirector listening", [
    ("address", .shown address), ("https_port", .number httpsPort.toNat)]⟩

def redirector (options : Options) (world : Environment) : Startup :=
  let address := ListenAddress.tcp options.redirectorAddress
  bindTcp world "HTTPS redirector" address .any
    (fun _ => redirectorListening address.address options.httpsPort)

end Startup

end WebListener.Lifecycle
