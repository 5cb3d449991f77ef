import WebListener.Kernel.FileTree
import WebListener.Net.Port
import WebListener.Text.Blank
import WebListener.Text.Split
-- What the listeners are told to do, and what follows from it: which listener runs, where its
-- certificates come from, and the port that redirects name.
namespace WebListener.Config

open Kernel (Path)
open Net (Port)

def defaultHttpAddress : String := "127.0.0.1:4180"
def defaultHttpsAddress : String := ":443"
def defaultRedirectorAddress : String := ":80"
def defaultHttpsPort : Port := 443
def defaultCacheDirectory : Path := "letsencrypt-cache"
def defaultConfigPath : Path := "config/default.toml"
def defaultLogFilter : String := "gatehouse=info"
def defaultLogFormat : String := "text"

structure Options where
  httpAddress : String
  httpsAddress : String
  redirectorAddress : String
  redirectHttpToHttps : Bool
  tlsCertFile : Option Path
  tlsKeyFile : Option Path
  letsencryptEnabled : Bool
  letsencryptCacheDir : Path
  letsencryptHosts : List String
  letsencryptAdminEmail : Option String
  letsencryptStaging : Bool
  requestLogging : Bool
deriving DecidableEq, Repr

inductive ListenMode where
  | http
  | https
deriving DecidableEq, Repr

def ListenMode.text : ListenMode → String
  | .http => "Http"
  | .https => "Https"

structure AcmeSettings where
  hosts : List String
  cacheDir : Path
  adminEmail : Option String
  production : Bool
deriving DecidableEq, Repr

inductive CertificateSource where
  | static (certFile keyFile : Option Path)
  | automatic (settings : AcmeSettings)
deriving DecidableEq, Repr

def AcmeSettings.contacts (settings : AcmeSettings) : List String :=
  match settings.adminEmail with
  | none => []
  | some email =>
    let address := Text.trim email
    if address.isEmpty then [] else ["mailto:" ++ address]

def AcmeSettings.environment (settings : AcmeSettings) : String :=
  if settings.production then "production" else "staging"

def given (path : Option Path) : Option Path := path.filter fun p => !p.isEmpty

namespace Options

def standard : Options where
  httpAddress := defaultHttpAddress
  httpsAddress := defaultHttpsAddress
  redirectorAddress := defaultRedirectorAddress
  redirectHttpToHttps := false
  tlsCertFile := none
  tlsKeyFile := none
  letsencryptEnabled := false
  letsencryptCacheDir := defaultCacheDirectory
  letsencryptHosts := []
  letsencryptAdminEmail := none
  letsencryptStaging := false
  requestLogging := true

-- Any TLS material selects HTTPS, also a lone key that cannot work.
def listenMode (options : Options) : ListenMode :=
  if (given options.tlsKeyFile).isSome || (given options.tlsCertFile).isSome ||
      options.letsencryptEnabled then .https
  else .http

def certificateSource (options : Options) : CertificateSource :=
  if options.letsencryptEnabled then
    .automatic ⟨options.letsencryptHosts, options.letsencryptCacheDir,
      options.letsencryptAdminEmail, !options.letsencryptStaging⟩
  else .static (given options.tlsCertFile) (given options.tlsKeyFile)

def staticPathsIgnored (options : Options) : Bool :=
  options.letsencryptEnabled &&
    ((given options.tlsCertFile).isSome || (given options.tlsKeyFile).isSome)

-- The port after the last colon of the HTTPS address as it is written, blanks included.
def httpsPort (options : Options) : Port :=
  match Text.splitLast ':' options.httpsAddress.toList with
  | some (_, port) => (Port.ofChars? port).getD defaultHttpsPort
  | none => defaultHttpsPort

def lacksHosts (options : Options) : Bool :=
  options.letsencryptEnabled && options.letsencryptHosts.all Text.isAllBlank

end Options

structure Logging where
  format : String
deriving DecidableEq, Repr

namespace Logging

def standard : Logging := ⟨defaultLogFormat⟩

def isJson (logging : Logging) : Bool :=
  logging.format.toList.map Char.toLower = ['j', 's', 'o', 'n']

end Logging

structure Configuration where
  server : Options
  logging : Logging
deriving DecidableEq, Repr

end WebListener.Config
