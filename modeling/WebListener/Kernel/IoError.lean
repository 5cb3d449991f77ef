import WebListener.Kernel.Errno
-- Why an operation on a file or a socket failed: the operating system refused it, or it was
-- refused before the system was asked.
namespace WebListener.Kernel

inductive IoError where
  | os (code : Errno)
  | invalidSocketAddress
  | invalidPort
  | noAddresses
  | unknownHost
  | nulInFileName
  | nulInSocketPath
  | socketPathTooLong
  | abstractNameTooLong
  | notUtf8
  | described (text : String)
deriving DecidableEq, Repr

def IoError.message : IoError → String
  | .os code => code.text ++ " (os error " ++ toString code ++ ")"
  | .invalidSocketAddress => "invalid socket address"
  | .invalidPort => "invalid port value"
  | .noAddresses => "could not resolve to any addresses"
  | .unknownHost => "failed to lookup address information: Name or service not known"
  | .nulInFileName => "file name contained an unexpected NUL byte"
  | .nulInSocketPath => "paths must not contain interior null bytes"
  | .socketPathTooLong => "path must be shorter than SUN_LEN"
  | .abstractNameTooLong => "abstract socket name must be shorter than SUN_LEN"
  | .notUtf8 => "stream did not contain valid UTF-8"
  | .described text => text

end WebListener.Kernel
