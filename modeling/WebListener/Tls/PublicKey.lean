import WebListener.Tls.Curve
import WebListener.Tls.Der
-- Public keys in the form that certificates carry them: an algorithm with its parameters, and
-- the key as a bit string.
namespace WebListener.Tls

inductive NamedCurve where
  | p256
  | p384
  | p521
deriving DecidableEq, Repr

namespace NamedCurve

def all : List NamedCurve := [.p256, .p384, .p521]

def curve : NamedCurve → Weierstrass
  | .p256 => .p256
  | .p384 => .p384
  | .p521 => .p521

def objectId : NamedCurve → List UInt8
  | .p256 => [0x2A, 0x86, 0x48, 0xCE, 0x3D, 0x03, 0x01, 0x07]
  | .p384 => [0x2B, 0x81, 0x04, 0x00, 0x22]
  | .p521 => [0x2B, 0x81, 0x04, 0x00, 0x23]

end NamedCurve

inductive PublicKey where
  | rsa (modulus exponent : Nat)
  | ecdsa (curve : NamedCurve) (x y : Nat)
  | ed25519 (bytes : List UInt8)
deriving DecidableEq, Repr

namespace PublicKey

def rsaId : List UInt8 := [0x2A, 0x86, 0x48, 0x86, 0xF7, 0x0D, 0x01, 0x01, 0x01]
def ecId : List UInt8 := [0x2A, 0x86, 0x48, 0xCE, 0x3D, 0x02, 0x01]
def ed25519Id : List UInt8 := [0x2B, 0x65, 0x70]

def algorithm : PublicKey → String
  | .rsa _ _ => "RSA"
  | .ecdsa _ _ _ => "ECDSA"
  | .ed25519 _ => "ED25519"

def identifier : PublicKey → List UInt8
  | .rsa _ _ => Der.element Der.objectId rsaId ++ Der.element Der.null []
  | .ecdsa curve _ _ => Der.element Der.objectId ecId ++ Der.element Der.objectId curve.objectId
  | .ed25519 _ => Der.element Der.objectId ed25519Id

def pointBytes (curve : Weierstrass) (x y : Nat) : List UInt8 :=
  4 :: Der.fixedBytes curve.fieldBytes x ++ Der.fixedBytes curve.fieldBytes y

def bits : PublicKey → List UInt8
  | .rsa modulus exponent =>
    Der.element Der.sequence (Der.naturalElement modulus ++ Der.naturalElement exponent)
  | .ecdsa curve x y => pointBytes curve.curve x y
  | .ed25519 bytes => bytes

def info (key : PublicKey) : List UInt8 :=
  Der.element Der.sequence (Der.element Der.sequence key.identifier ++
    Der.element Der.bitString (0 :: key.bits))

end PublicKey

end WebListener.Tls
