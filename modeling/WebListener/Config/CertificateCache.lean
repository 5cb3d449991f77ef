import WebListener.Config.Options
import WebListener.Hash.Sha2
import WebListener.Kernel.FileTree
import WebListener.Tls.Base64
-- Where an issued certificate is kept between runs: a file of the cache directory that is named
-- after the hosts, in their order, and after the service that issued it.
namespace WebListener.Config.AcmeSettings

open Kernel (FileTree Path)

def directoryHost (settings : AcmeSettings) : String :=
  if settings.production then "acme-v02.api.letsencrypt.org"
  else "acme-staging-v02.api.letsencrypt.org"

def directoryAddress (settings : AcmeSettings) : String :=
  "https://" ++ settings.directoryHost ++ "/directory"

-- Each host ends with a NUL, so that no two lists of hosts run together.
def cacheKey (settings : AcmeSettings) : List UInt8 :=
  settings.hosts.flatMap (fun host => Text.utf8 host ++ [0]) ++ Text.utf8 settings.directoryAddress

def cachedName (settings : AcmeSettings) : String :=
  "cached_cert_" ++
    .ofList (Tls.Base64.urlText (Hash.Sha2.sha256.digest settings.cacheKey))

def cachedPath (settings : AcmeSettings) : Path :=
  if settings.cacheDir.isEmpty then settings.cachedName
  else settings.cacheDir ++ "/" ++ settings.cachedName

def isCached (settings : AcmeSettings) (files : FileTree) : Bool :=
  match files.read settings.cachedPath with
  | .ok _ => true
  | .error _ => false

end WebListener.Config.AcmeSettings
