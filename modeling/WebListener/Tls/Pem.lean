import WebListener.Text.Utf8
import WebListener.Tls.Base64
-- Files of labelled sections in base64. A section runs from its BEGIN line to the END line with
-- the same label; a BEGIN line inside it starts another one in its place. Sections with an
-- unknown label are passed over unread, and so is all text outside.
namespace WebListener.Tls.Pem

inductive Kind where
  | certificate
  | publicKey
  | rsaPrivateKey
  | privateKey
  | ecPrivateKey
  | revocationList
  | request
  | echConfigs
deriving DecidableEq, Repr

namespace Kind

def all : List Kind :=
  [.certificate, .publicKey, .rsaPrivateKey, .privateKey, .ecPrivateKey, .revocationList,
    .request, .echConfigs]

def label : Kind → String
  | .certificate => "CERTIFICATE"
  | .publicKey => "PUBLIC KEY"
  | .rsaPrivateKey => "RSA PRIVATE KEY"
  | .privateKey => "PRIVATE KEY"
  | .ecPrivateKey => "EC PRIVATE KEY"
  | .revocationList => "X509 CRL"
  | .request => "CERTIFICATE REQUEST"
  | .echConfigs => "ECHCONFIG"

def ofLabel? (label : List UInt8) : Option Kind := all.find? fun kind => Text.utf8 kind.label = label

def isPrivateKey : Kind → Bool
  | .rsaPrivateKey | .privateKey | .ecPrivateKey => true
  | _ => false

end Kind

structure Section where
  kind : Kind
  der : List UInt8
deriving DecidableEq, Repr

def isLineEnd (b : UInt8) : Bool := b = 10 || b = 13

def lines : List UInt8 → List (List UInt8)
  | [] => []
  | b :: rest =>
    if isLineEnd b then [b] :: lines rest
    else match lines rest with
      | [] => [[b]]
      | line :: others => (b :: line) :: others

def beginMark : List UInt8 := Text.utf8 "-----BEGIN "
def endMark : List UInt8 := Text.utf8 "-----END "
def dashes : List UInt8 := Text.utf8 "-----"

def isTrailing (b : UInt8) : Bool := b = 32 || isLineEnd b

def trailingDashes : List UInt8 → Nat × List UInt8
  | [] => (0, [])
  | b :: before =>
    if b = 45 then
      let (count, before) := trailingDashes before
      (count + 1, before)
    else if isTrailing b then
      let (count, kept) := trailingDashes before
      if count = 0 then (0, b :: before) else (count, kept)
    else (0, b :: before)

def beginLabel (line : List UInt8) : Except PemFault (List UInt8) :=
  let (count, before) := trailingDashes line.reverse
  if count = 5 then .ok (before.reverse.drop beginMark.length)
  else .error (.illegalSectionStart line)

def endsSection (label line : List UInt8) : Bool := (endMark ++ label ++ dashes).isPrefixOf line

structure Open where
  label : List UInt8
  text : List UInt8

-- The text of a section that was begun twice is kept from the first time on.
def next (section? : Option Open) (line : List UInt8) :
    Except PemFault (Option Open × Option Section) :=
  if beginMark.isPrefixOf line then do
    let label ← beginLabel line
    return (some ⟨label, (section?.map (·.text)).getD []⟩, none)
  else match section? with
    | none => .ok (none, none)
    | some s =>
      if endsSection s.label line then
        match Kind.ofLabel? s.label with
        | none => .ok (none, none)
        | some kind =>
          match Base64.decode s.text with
          | .ok der => .ok (none, some ⟨kind, der⟩)
          | .error fault => .error (.base64 fault)
      else .ok (some { s with text := s.text ++ line }, none)

def sectionsOf (section? : Option Open) : List (List UInt8) → List (Except PemFault Section)
  | [] =>
    match section? with
    | none => []
    | some s => [.error (.missingSectionEnd s.label)]
  | line :: rest =>
    match next section? line with
    | .error fault => [.error fault]
    | .ok (still, none) => sectionsOf still rest
    | .ok (still, some found) => .ok found :: sectionsOf still rest

def sections (file : List UInt8) : List (Except PemFault Section) := sectionsOf none (lines file)

end WebListener.Tls.Pem
