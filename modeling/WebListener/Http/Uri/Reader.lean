import WebListener.Http.Uri
import WebListener.Text.Reader
import WebListener.Text.Utf8
-- Reading request targets. The bytes are taken one character each; only a path and its query may
-- have characters beyond ASCII, and these have to be UTF-8.
namespace WebListener.Http

inductive UriFault where
  | empty
  | tooLong
  | invalidCharacter
  | invalidAuthority
  | invalidFormat
  | schemeTooLong
deriving DecidableEq, Repr

def UriFault.message : UriFault → String
  | .empty => "empty string"
  | .tooLong => "uri too long"
  | .invalidCharacter => "invalid uri character"
  | .invalidAuthority => "invalid authority"
  | .invalidFormat => "invalid format"
  | .schemeTooLong => "scheme too long"

namespace Uri

def isPathChar (c : Char) : Bool :=
  let n := c.toNat
  n = 0x21 || (0x24 ≤ n && n ≤ 0x3B) || n = 0x3D || (0x40 ≤ n && n ≤ 0x5F) ||
    (0x61 ≤ n && n ≤ 0x7A) || n = 0x7C || n = 0x7E || c = '"' || c = '\x7b' || c = '\x7d' ||
    0x80 ≤ n

def isQueryChar (c : Char) : Bool :=
  let n := c.toNat
  n = 0x21 || (0x24 ≤ n && n ≤ 0x3B) || n = 0x3D || (0x3F ≤ n && n ≤ 0x7E) || 0x80 ≤ n

def isAuthorityChar (c : Char) : Bool :=
  c.isAlphanum || "!#$&'()*+,-./:;=?@[]_~".toList.contains c

def isSchemeChar (c : Char) : Bool := c.isAlphanum || c = '+' || c = '-' || c = '.'

def spelled (bytes : List Char) : Except UriFault (List Char) :=
  match Text.decodeUtf8 (bytes.map fun c => .ofNat c.toNat) with
  | some cs => .ok cs
  | none => .error .invalidCharacter

def spelledTarget (path : List Char) (query : Option (List Char)) : Except UriFault PathQuery := do
  let path ← spelled path
  match query with
  | none => .ok ⟨path, none⟩
  | some query => return ⟨path, some (← spelled query)⟩

def readTarget (cs : List Char) : Except UriFault PathQuery :=
  let path := cs.takeWhile fun c => c ≠ '?' && c ≠ '#'
  if !path.all isPathChar then .error .invalidCharacter
  else match cs.drop path.length with
    | '?' :: rest =>
      let query := rest.takeWhile (· ≠ '#')
      if !query.all isQueryChar then .error .invalidCharacter else spelledTarget path (some query)
    | _ => spelledTarget path none

-- What has been seen of an authority. Colons and percent signs in front of an at sign or a
-- closing bracket do not count, since they belong to the user or to an IPv6 address.
structure AuthorityScan where
  colons : Nat
  opened : Bool
  closed : Bool
  percent : Bool
  endsInAt : Bool

def AuthorityScan.initial : AuthorityScan := ⟨0, false, false, false, false⟩

def mostColons : Nat := 8

def AuthorityScan.step (s : AuthorityScan) (c : Char) : Except UriFault AuthorityScan :=
  let s := { s with endsInAt := false }
  if c = '%' then .ok { s with percent := true }
  else if !isAuthorityChar c then .error .invalidCharacter
  else if c = ':' then
    if mostColons ≤ s.colons then .error .invalidAuthority
    else .ok { s with colons := s.colons + 1 }
  else if c = '[' then
    if s.percent || s.opened then .error .invalidAuthority else .ok { s with opened := true }
  else if c = ']' then
    if !s.opened || s.closed then .error .invalidAuthority
    else .ok { s with closed := true, colons := 0, percent := false }
  else if c = '@' then .ok { s with colons := 0, percent := false, endsInAt := true }
  else .ok s

def AuthorityScan.finish (s : AuthorityScan) : Except UriFault Unit :=
  if s.opened != s.closed || 1 < s.colons || s.endsInAt || s.percent then .error .invalidAuthority
  else .ok ()

def endsAuthority (c : Char) : Bool := c = '/' || c = '?' || c = '#'

def readAuthority (cs : List Char) : Except UriFault (List Char × List Char) := do
  let own := cs.takeWhile fun c => !endsAuthority c
  let s ← own.foldlM AuthorityScan.step .initial
  s.finish
  return (own, cs.drop own.length)

inductive SchemeScan where
  | none
  | found (scheme rest : List Char)

def longestScheme : Nat := 64

def standardSchemes : List (List Char) := ["http".toList, "https".toList]

def standardScheme? (cs : List Char) : Option (List Char × List Char) :=
  standardSchemes.findSome? fun scheme =>
    let written := scheme ++ [':', '/', '/']
    if (cs.take written.length).map Char.toLower = written then
      some (scheme, cs.drop written.length)
    else none

def readScheme (cs : List Char) : Except UriFault SchemeScan :=
  match standardScheme? cs with
  | some (scheme, rest) => .ok (.found scheme rest)
  | none =>
    let scheme := cs.takeWhile isSchemeChar
    match cs.drop scheme.length with
    | ':' :: '/' :: '/' :: rest =>
      if cs.length ≤ 3 then .ok .none
      else if longestScheme < scheme.length then .error .schemeTooLong
      else .ok (.found scheme rest)
    | _ => .ok .none

def readFull (cs : List Char) : Except UriFault Uri := do
  let (scheme, rest) := match ← readScheme cs with
    | .none => (none, cs)
    | .found scheme rest => (some scheme, rest)
  if rest.isEmpty then throw .empty
  let (own, rest) ← readAuthority rest
  match scheme with
  | none => if rest.isEmpty then return .authority own else throw .invalidFormat
  | some scheme =>
    if own.isEmpty then throw .invalidFormat
    return .absolute scheme own (← readTarget rest)

def readSingle (cs : List Char) : Except UriFault Uri := do
  let (own, rest) ← readAuthority cs
  if rest.isEmpty then return .authority own else throw .invalidCharacter

def longest : Nat := 65534

def ofBytes (bytes : List UInt8) : Except UriFault Uri :=
  let cs := bytes.map fun b => Char.ofNat b.toNat
  if longest < cs.length then .error .tooLong
  else match cs with
    | [] => .error .empty
    | ['*'] => .ok (.path ⟨['*'], none⟩)
    | '/' :: _ => (readTarget cs).map .path
    | [_] => readSingle cs
    | _ => readFull cs

end Uri

end WebListener.Http
