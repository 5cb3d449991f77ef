import WebListener.Config.CertificateCache
import WebListener.Log.Event
-- What the client of a certificate authority reports while it obtains certificates and renews them:
-- the steps that it takes, what goes wrong, and that it has come to an end. It depends on the
-- settings and on the files that the client finds.
namespace WebListener.Net

open Config (AcmeSettings)
open Kernel (FileTree)

inductive Issuance where
  | step (text : String)
  | failure (text : String)
  | ended
deriving DecidableEq, Repr

namespace Issuance

def event : Issuance → Log.Event
  | .step text => ⟨.info, .server, "ACME event", [("event", .shown text)]⟩
  | .failure text => ⟨.error, .server, "ACME error", [("error", .shown text)]⟩
  | .ended => ⟨.debug, .server, "ACME state stream ended", []⟩

def later : List Issuance → List Issuance
  | [] | .ended :: _ => []
  | _ :: rest => rest

end Issuance

abbrev Authority := AcmeSettings → FileTree → List Issuance

-- An authority that never answers, and a cache that holds only what can be used.
def Authority.silent : Authority := fun settings files =>
  if settings.isCached files then [.step "DeployedCachedCert"] else []

end WebListener.Net
