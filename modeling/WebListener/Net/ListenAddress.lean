import WebListener.Kernel.IoError
import WebListener.Text.Blank
import WebListener.Text.Split
-- URL-shaped listen addresses. A scheme picks the network: none and "http" mean TCP, any other
-- scheme is the network's name, in lower case. The scheme with its separator never reaches a
-- bind, and nothing else of the address is changed.
namespace WebListener.Net

inductive IpFamily where
  | any
  | v4
  | v6
deriving DecidableEq, Repr

inductive Transport where
  | tcp (family : IpFamily)
  | unix (path : String)
deriving DecidableEq, Repr

inductive AddressFault where
  | empty
  | invalidScheme
  | missingAddress
  | described (text : String)
deriving DecidableEq, Repr

def AddressFault.message : AddressFault → String
  | .empty => "empty address"
  | .invalidScheme => "invalid scheme"
  | .missingAddress => "missing address after scheme"
  | .described text => text

structure ListenAddress where
  network : String
  address : String
deriving DecidableEq, Repr

namespace ListenAddress

def separator : List Char := [':', '/', '/']

def isSchemeChar (c : Char) : Bool :=
  c.isAlphanum || c == '+' || c == '-' || c == '.'

def isScheme : List Char → Bool
  | [] => false
  | first :: rest => first.isAlpha && rest.all isSchemeChar

def networkOf (scheme : List Char) : List Char :=
  let lower := scheme.map Char.toLower
  if lower = ['h', 't', 't', 'p'] then ['t', 'c', 'p'] else lower

def ofTrimmed (cs : List Char) : Except AddressFault ListenAddress :=
  if cs.isEmpty then .error .empty
  else match Text.splitFirst separator cs with
    | none => .ok ⟨"tcp", .ofList cs⟩
    | some (scheme, rest) =>
      if !isScheme scheme then .error .invalidScheme
      else if rest.isEmpty then .error .missingAddress
      else .ok ⟨.ofList (networkOf scheme), .ofList rest⟩

def parse (raw : String) : Except AddressFault ListenAddress :=
  ofTrimmed (Text.trimmed raw.toList)

def tcp (address : String) : ListenAddress := ⟨"tcp", Text.trim address⟩

def transport? (address : ListenAddress) : Option Transport :=
  match address.network with
  | "tcp" => some (.tcp .any)
  | "tcp4" => some (.tcp .v4)
  | "tcp6" => some (.tcp .v6)
  | "unix" => some (.unix address.address)
  | _ => none

end ListenAddress

end WebListener.Net
