import WebListener.Tls.Der
import WebListener.Tls.Fault
-- The public key of a certificate. Only version 3 certificates are read; of the rest of a
-- certificate it matters only that each part is where it belongs.
namespace WebListener.Tls.Certificate

structure Signed where
  body : List UInt8
  algorithm : List UInt8

def mostBodyBytes : Nat := 0xFFFF

def readSigned (der : List UInt8) : Option Signed := do
  let parts ← Der.expectOnly Der.sequence der
  let (body, parts) ← Der.expect Der.sequence parts
  let (algorithm, parts) ← Der.expect Der.sequence parts
  let signature ← Der.expectOnly Der.bitString parts
  let _ ← Der.wholeBits? signature
  if body.length ≤ mostBodyBytes then some ⟨body, algorithm⟩ else none

def readVersion (body : List UInt8) : Option (List UInt8) := do
  let (version, rest) ← Der.expect (Der.context 0) body
  let contents ← Der.expectOnly Der.integer version
  if contents = [2] then some rest else none

-- Names of known extensions end in these numbers; they stand for key usage, alternative names,
-- basic constraints, name constraints, revocation lists, and extended key usage.
def knownExtensions : List UInt8 := [15, 17, 19, 30, 31, 37]

def extensionPrefix : List UInt8 := [0x55, 0x1D]

def extensionNumber? (name : List UInt8) : Option UInt8 :=
  match name with
  | [a, b, n] => if [a, b] = extensionPrefix then some n else none
  | _ => none

def isKnown (name : List UInt8) : Bool :=
  ((extensionNumber? name).map knownExtensions.contains).getD false

structure Extension where
  name : List UInt8
  critical : Bool
  value : List UInt8

def readExtension (contents : List UInt8) : Option Extension := do
  let (name, rest) ← Der.expect Der.objectId contents
  let (flag, rest) ← Der.expectOptional Der.boolean rest
  let critical ← match flag with
    | none => some false
    | some [0xFF] => some true
    | some [0] => some false
    | some _ => none
  let value ← Der.expectOnly Der.octetString rest
  some ⟨name, critical, value⟩

def keyUsage : UInt8 := 15

def isWellFormed (e : Extension) : Bool :=
  extensionNumber? e.name = some keyUsage || (Der.expectOnly Der.sequence e.value).isSome

def checkExtensions : Nat → List (List UInt8) → List UInt8 → Except TlsFault Unit
  | 0, _, _ => .error .badEncoding
  | bound + 1, seen, bytes =>
    if bytes.isEmpty then .ok ()
    else match Der.expect Der.sequence bytes with
      | none => .error .badEncoding
      | some (contents, rest) =>
        match readExtension contents with
        | none => .error .badEncoding
        | some e =>
          if isKnown e.name then
            if seen.contains e.name then .error .repeatedExtension
            else if isWellFormed e then checkExtensions bound (e.name :: seen) rest
            else .error .badEncoding
          else if e.critical then .error .unknownExtension
          else checkExtensions bound seen rest

def readExtensions (rest : List UInt8) : Except TlsFault Unit :=
  if rest.isEmpty then .ok ()
  else match (Der.expectOnly (Der.context 3) rest).bind (Der.expectOnly Der.sequence) with
    | none => .error .badEncoding
    | some bytes => checkExtensions (bytes.length + 1) [] bytes

def orMalformed (part : Option α) : Except TlsFault α :=
  match part with
  | some a => .ok a
  | none => .error .badEncoding

def publicKeyInfo (der : List UInt8) : Except TlsFault (List UInt8) := do
  let signed ← orMalformed (readSigned der)
  let body ← match readVersion signed.body with
    | some rest => pure rest
    | none => throw .unsupportedVersion
  let (_, body) ← orMalformed (Der.expect Der.integer body)
  let (algorithm, body) ← orMalformed (Der.expect Der.sequence body)
  if algorithm != signed.algorithm then throw .signatureMismatch
  let (_, body) ← orMalformed (Der.expect Der.sequence body)
  let (_, body) ← orMalformed (Der.expect Der.sequence body)
  let (_, body) ← orMalformed (Der.expect Der.sequence body)
  let (key, rest) ← orMalformed (Der.expect Der.sequence body)
  readExtensions rest
  return Der.element Der.sequence key

end WebListener.Tls.Certificate
