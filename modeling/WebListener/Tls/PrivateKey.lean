import WebListener.Hash.Sha2
import WebListener.Tls.Pem
import WebListener.Tls.PublicKey
-- Private keys as files hold them, each with the public key that belongs to it. A key whose
-- numbers do not fit together is refused.
namespace WebListener.Tls.PrivateKey

structure Rsa where
  n : Nat
  e : Nat
  d : Nat
  p : Nat
  q : Nat
  dp : Nat
  dq : Nat
  qInverse : Nat

namespace Rsa

def bitLength (n : Nat) : Nat := if n = 0 then 0 else n.log2 + 1

def leastBits : Nat := 2048
def mostBits : Nat := 8192

def isSound (k : Rsa) : Bool :=
  leastBits ≤ bitLength k.n && bitLength k.n ≤ mostBits && k.n % 2 = 1 &&
    3 ≤ k.e && k.e % 2 = 1 && bitLength k.e ≤ 33 &&
    1 < k.p && 1 < k.q && k.n = k.p * k.q && k.d < k.n &&
    k.d * k.e % (k.p - 1) = 1 && k.d * k.e % (k.q - 1) = 1 &&
    k.dp < k.p - 1 && k.dp * k.e % (k.p - 1) = 1 &&
    k.dq < k.q - 1 && k.dq * k.e % (k.q - 1) = 1 &&
    k.qInverse < k.p && k.qInverse * k.q % k.p = 1

def read (der : List UInt8) : Option (Rsa × List UInt8) := do
  let (body, rest) ← Der.expect Der.sequence der
  let (version, body) ← Der.readNatural body
  let (n, body) ← Der.readNatural body
  let (e, body) ← Der.readNatural body
  let (d, body) ← Der.readNatural body
  let (p, body) ← Der.readNatural body
  let (q, body) ← Der.readNatural body
  let (dp, body) ← Der.readNatural body
  let (dq, body) ← Der.readNatural body
  let (qInverse, body) ← Der.readNatural body
  if version = 0 && body.isEmpty then some (⟨n, e, d, p, q, dp, dq, qInverse⟩, rest) else none

def publicKey? (k : Rsa) : Option PublicKey :=
  if k.isSound then some (.rsa k.n k.e) else none

end Rsa

def isPoint (curve : Weierstrass) (x y : Nat) (bytes : List UInt8) : Bool :=
  bytes = PublicKey.pointBytes curve x y ||
    bytes = .ofNat (2 + y % 2) :: Der.fixedBytes curve.fieldBytes x

def readEc (curve : NamedCurve) (der : List UInt8) : Option (PublicKey × List UInt8) := do
  let (body, rest) ← Der.expect Der.sequence der
  let (version, body) ← Der.readNatural body
  let (secret, body) ← Der.expect Der.octetString body
  let (parameters, body) ← Der.expectOptional (Der.context 0) body
  let (point, body) ← Der.expectOptional (Der.context 1) body
  let scalar := Der.number secret
  let c := curve.curve
  if version ≠ 1 || !body.isEmpty || scalar = 0 || c.order ≤ scalar then none
  else if (parameters.map (· != Der.element Der.objectId curve.objectId)).getD false then none
  else
    let (x, y) ← c.publicPoint scalar
    match point with
    | none => some (.ecdsa curve x y, rest)
    | some bits => do
      let written ← Der.wholeBits? (← Der.expectOnly Der.bitString bits)
      if isPoint c x y written then some (.ecdsa curve x y, rest) else none

structure Wrapped where
  algorithm : List UInt8
  parameters : List UInt8
  key : List UInt8
  publicKey : Option (List UInt8)

def readWrapped (der : List UInt8) : Option Wrapped := do
  let (body, _) ← Der.expect Der.sequence der
  let (version, body) ← Der.readNatural body
  let (identifier, body) ← Der.expect Der.sequence body
  let (algorithm, parameters) ← Der.expect Der.objectId identifier
  let (key, body) ← Der.expect Der.octetString body
  let (_, body) ← Der.expectOptional (Der.context 0) body
  let (publicKey, _) ← Der.expectOptional 0x81 body
  if version ≤ 1 && (version = 1 || publicKey.isNone) then
    some ⟨algorithm, parameters, key, publicKey⟩
  else none

def complete (read : Option (α × List UInt8)) : Option α :=
  match read with
  | some (a, []) => some a
  | _ => none

namespace Wrapped

def rsa? (w : Wrapped) : Option PublicKey :=
  if w.algorithm = PublicKey.rsaId && w.parameters = Der.element Der.null [] then
    (complete (Rsa.read w.key)).bind Rsa.publicKey?
  else none

def ec? (w : Wrapped) : Option PublicKey := do
  let curve ← NamedCurve.all.find? fun curve =>
    w.algorithm = PublicKey.ecId && w.parameters = Der.element Der.objectId curve.objectId
  complete (readEc curve w.key)

def ed25519? (w : Wrapped) : Option PublicKey := do
  if w.algorithm ≠ PublicKey.ed25519Id || !w.parameters.isEmpty then none
  let seed ← Der.expectOnly Der.octetString w.key
  if seed.length ≠ 32 then none
  let bytes := Edwards.publicKey (Hash.Sha2.sha512.digest seed)
  if (w.publicKey.map (· != 0 :: bytes)).getD false then none else some (.ed25519 bytes)

end Wrapped

def publicKey? (kind : Pem.Kind) (der : List UInt8) : Option PublicKey :=
  match kind with
  | .rsaPrivateKey => (Rsa.read der).bind fun (key, _) => key.publicKey?
  | .privateKey =>
    (readWrapped der).bind fun w => (w.rsa?.orElse fun _ => w.ec?).orElse fun _ => w.ed25519?
  | .ecPrivateKey =>
    ((readWrapped der).bind Wrapped.ec?).orElse fun _ =>
      NamedCurve.all.findSome? fun curve => (readEc curve der).map (·.1)
  | _ => none

end WebListener.Tls.PrivateKey
