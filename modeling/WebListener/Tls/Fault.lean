import WebListener.Kernel.IoError
-- Why TLS material was refused, stage by stage: the text encoding of a file, the file's
-- sections, the certificate and key themselves, and the pair as configured.
namespace WebListener.Tls

inductive Base64Fault where
  | invalidCharacter (byte : UInt8)
  | prematurePadding
  | trailingPadding
deriving DecidableEq, Repr

def Base64Fault.message : Base64Fault → String
  | .invalidCharacter byte => "InvalidCharacter(" ++ toString byte.toNat ++ ")"
  | .prematurePadding => "PrematurePadding"
  | .trailingPadding => "InvalidTrailingPadding"

def byteList (bytes : List UInt8) : String :=
  "[" ++ ", ".intercalate (bytes.map fun b => toString b.toNat) ++ "]"

inductive PemFault where
  | unreadable (cause : Kernel.IoError)
  | missingSectionEnd (label : List UInt8)
  | illegalSectionStart (line : List UInt8)
  | base64 (fault : Base64Fault)
  | noItems
deriving DecidableEq, Repr

def PemFault.message : PemFault → String
  | .unreadable cause => "I/O error: " ++ cause.message
  | .missingSectionEnd label => "missing section end marker: " ++ byteList label
  | .illegalSectionStart line => "illegal section start: " ++ byteList line
  | .base64 fault => "base64 decode error: " ++ fault.message
  | .noItems => "no items found"

inductive TlsFault where
  | general (text : String)
  | unknownKey
  | keyMismatch
  | badEncoding
  | unsupportedVersion
  | signatureMismatch
  | unknownExtension
  | repeatedExtension
deriving DecidableEq, Repr

def TlsFault.message : TlsFault → String
  | .general text => "unexpected error: " ++ text
  | .unknownKey => "unexpected error: failed to parse private key as RSA, ECDSA, or EdDSA"
  | .keyMismatch => "keys may not be consistent: KeyMismatch"
  | .badEncoding => "invalid peer certificate: BadEncoding"
  | .unsupportedVersion => "invalid peer certificate: Other(OtherError(UnsupportedCertVersion))"
  | .signatureMismatch =>
    "invalid peer certificate: Other(OtherError(SignatureAlgorithmMismatch))"
  | .unknownExtension => "invalid peer certificate: UnhandledCriticalExtension"
  | .repeatedExtension => "invalid peer certificate: Other(OtherError(ExtensionValueInvalid))"

inductive MaterialFault where
  | certFileUnset
  | keyFileUnset
  | noCertificates
  | pem (fault : PemFault)
  | tls (fault : TlsFault)
  | described (text : String)
deriving DecidableEq, Repr

def MaterialFault.message : MaterialFault → String
  | .certFileUnset => "tls-cert-file is not set"
  | .keyFileUnset => "tls-key-file is not set"
  | .noCertificates => "no certificates found in tls-cert-file"
  | .pem fault => fault.message
  | .tls fault => fault.message
  | .described text => text

end WebListener.Tls
