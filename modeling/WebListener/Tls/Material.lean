import WebListener.Kernel.FileTree
import WebListener.Tls.Certificate
import WebListener.Tls.PrivateKey
-- The certificate chain and key that a server shows. They are loaded from two files, and what is
-- wrong with the first is reported before the second is opened.
namespace WebListener.Tls

open Kernel (FileTree Path)

def alpnProtocols : List String := ["http/1.1"]
def protocolVersions : List String := ["TLSv1_2"]
def leastVersion : String := "TLSv1_2"
def greatestVersion : String := "TLSv1_2"

structure Material where
  chain : List (List UInt8)
  key : PublicKey
deriving DecidableEq, Repr

namespace Material

abbrev Sections := List (Except PemFault Pem.Section)

def sectionsOf (files : FileTree) (path : Path) : Except PemFault Sections :=
  match files.read path with
  | .ok contents => .ok (Pem.sections contents)
  | .error cause => .error (.unreadable cause)

def certificates : Sections → Except PemFault (List (List UInt8))
  | [] => .ok []
  | .error fault :: _ => .error fault
  | .ok s :: rest =>
    if s.kind = .certificate then (certificates rest).map (s.der :: ·) else certificates rest

def privateKey : Sections → Except PemFault Pem.Section
  | [] => .error .noItems
  | .error fault :: _ => .error fault
  | .ok s :: rest => if s.kind.isPrivateKey then .ok s else privateKey rest

def ofChain (chain : List (List UInt8)) (key : Pem.Section) : Except TlsFault Material := do
  match PrivateKey.publicKey? key.kind key.der with
  | none => throw .unknownKey
  | some publicKey =>
    let info ← Certificate.publicKeyInfo (chain.headD [])
    if info = publicKey.info then return ⟨chain, publicKey⟩ else throw .keyMismatch

def load (files : FileTree) (certFile keyFile : Option Path) : Except MaterialFault Material := do
  let some certPath := certFile | throw .certFileUnset
  let some keyPath := keyFile | throw .keyFileUnset
  let chain ← ((sectionsOf files certPath).bind certificates).mapError .pem
  if chain.isEmpty then throw .noCertificates
  let key ← ((sectionsOf files keyPath).bind privateKey).mapError .pem
  (ofChain chain key).mapError .tls

end Material

end WebListener.Tls
