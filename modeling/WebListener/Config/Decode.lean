import WebListener.Config.Options
import WebListener.Number.Shortest
import WebListener.Text.Quoted
import WebListener.Toml.Value
-- From a TOML table to a configuration. Known keys are decoded in the order of the document, the
-- first value of the wrong type is reported, and unknown keys are passed over. An array stands
-- for a table whose entries are the fields in their declared order.
namespace WebListener.Config

open Kernel (Path)
open Toml (Value Scalar Span Entries)

inductive Expected where
  | text
  | boolean
  | path
  | sequence
  | options
  | logging
deriving DecidableEq, Repr

def Expected.described : Expected → String
  | .text => "a string"
  | .boolean => "a boolean"
  | .path => "path string"
  | .sequence => "a sequence"
  | .options => "struct ServerOptions"
  | .logging => "struct LoggingConfig"

inductive Shape where
  | string (text : String)
  | integer (n : Int)
  | float (x : Number.Double)
  | boolean (b : Bool)
  | sequence
  | map
deriving DecidableEq, Repr

def Shape.of : Value → Shape
  | .scalar _ (.string text) => .string text
  | .scalar _ (.integer n) => .integer n
  | .scalar _ (.float x) => .float x
  | .scalar _ (.boolean b) => .boolean b
  | .scalar _ (.moment _) => .map
  | .array _ _ _ => .sequence
  | .table _ _ _ => .map

def integerText (n : Int) : String :=
  if n < 0 then "-" ++ .ofList (Text.decimalChars n.natAbs)
  else .ofList (Text.decimalChars n.natAbs)

def Shape.described : Shape → String
  | .string text => "string " ++ Text.quoted text
  | .integer n => "integer `" ++ integerText n ++ "`"
  | .float x => "floating point `" ++ x.text ++ "`"
  | .boolean b => "boolean `" ++ (if b then "true" else "false") ++ "`"
  | .sequence => "sequence"
  | .map => "map"

structure TypeFault where
  span : Span
  found : Shape
  expected : Expected
deriving DecidableEq, Repr

def TypeFault.complaint (fault : TypeFault) : String :=
  "invalid type: " ++ fault.found.described ++ ", expected " ++ fault.expected.described

structure Located where
  fallback : Span
  value : Value

def Located.span (x : Located) : Span := x.value.span?.getD x.fallback

def Located.mistyped (x : Located) (expected : Expected) : TypeFault :=
  ⟨x.span, Shape.of x.value, expected⟩

abbrev Decoded := Except TypeFault

def decodeText (expected : Expected) (x : Located) : Decoded String :=
  match x.value with
  | .scalar _ (.string text) => .ok text
  | _ => .error (x.mistyped expected)

def decodeFlag (x : Located) : Decoded Bool :=
  match x.value with
  | .scalar _ (.boolean b) => .ok b
  | _ => .error (x.mistyped .boolean)

def decodeTexts (x : Located) : Decoded (List String) :=
  match x.value with
  | .array span _ items => items.mapM fun item => decodeText .text ⟨span, item⟩
  | _ => .error (x.mistyped .sequence)

inductive Field where
  | httpAddress
  | httpsAddress
  | redirectorAddress
  | redirectHttpToHttps
  | tlsCertFile
  | tlsKeyFile
  | letsencryptEnabled
  | letsencryptCacheDir
  | letsencryptHosts
  | letsencryptAdminEmail
  | letsencryptStaging
  | requestLogging
deriving DecidableEq, Repr

namespace Field

def all : List Field :=
  [.httpAddress, .httpsAddress, .redirectorAddress, .redirectHttpToHttps, .tlsCertFile,
    .tlsKeyFile, .letsencryptEnabled, .letsencryptCacheDir, .letsencryptHosts,
    .letsencryptAdminEmail, .letsencryptStaging, .requestLogging]

def key : Field → String
  | .httpAddress => "http-address"
  | .httpsAddress => "https-address"
  | .redirectorAddress => "https-redirector-address"
  | .redirectHttpToHttps => "redirect-http-to-https"
  | .tlsCertFile => "tls-cert-file"
  | .tlsKeyFile => "tls-key-file"
  | .letsencryptEnabled => "letsencrypt-enabled"
  | .letsencryptCacheDir => "letsencrypt-cache-dir"
  | .letsencryptHosts => "letsencrypt-hosts"
  | .letsencryptAdminEmail => "letsencrypt-admin-email"
  | .letsencryptStaging => "letsencrypt-staging"
  | .requestLogging => "request-logging"

def ofKey? (key : String) : Option Field := all.find? (·.key = key)

def set (o : Options) (x : Located) : Field → Decoded Options
  | .httpAddress => return { o with httpAddress := ← decodeText .text x }
  | .httpsAddress => return { o with httpsAddress := ← decodeText .text x }
  | .redirectorAddress => return { o with redirectorAddress := ← decodeText .text x }
  | .redirectHttpToHttps => return { o with redirectHttpToHttps := ← decodeFlag x }
  | .tlsCertFile => return { o with tlsCertFile := some (← decodeText .path x) }
  | .tlsKeyFile => return { o with tlsKeyFile := some (← decodeText .path x) }
  | .letsencryptEnabled => return { o with letsencryptEnabled := ← decodeFlag x }
  | .letsencryptCacheDir => return { o with letsencryptCacheDir := ← decodeText .path x }
  | .letsencryptHosts => return { o with letsencryptHosts := ← decodeTexts x }
  | .letsencryptAdminEmail =>
    return { o with letsencryptAdminEmail := some (← decodeText .text x) }
  | .letsencryptStaging => return { o with letsencryptStaging := ← decodeFlag x }
  | .requestLogging => return { o with requestLogging := ← decodeFlag x }

end Field

-- A table by its keys, an array by position, anything else not at all; a moment is a table with
-- no known key.
def decodeFields (expected : Expected) (fieldOf : String → Option φ) (fields : List φ)
    (set : σ → Located → φ → Decoded σ) (standard : σ) (x : Located) : Decoded σ :=
  match x.value with
  | .table _ _ entries =>
    entries.foldlM (fun s (key, value) =>
      match fieldOf key.name with
      | some field => set s ⟨key.span, value⟩ field
      | none => .ok s) standard
  | .array span _ items =>
    (items.zip fields).foldlM (fun s (item, field) => set s ⟨span, item⟩ field) standard
  | .scalar _ (.moment _) => .ok standard
  | _ => .error (x.mistyped expected)

def decodeOptions : Located → Decoded Options :=
  decodeFields .options Field.ofKey? Field.all Field.set .standard

def decodeLogging : Located → Decoded Logging :=
  decodeFields .logging (fun key => if key = "format" then some () else none) [()]
    (fun _ x _ => (decodeText .text x).map Logging.mk) .standard

inductive Table where
  | server
  | logging
deriving DecidableEq, Repr

def Table.ofKey? (key : String) : Option Table :=
  if key = "server" then some .server else if key = "logging" then some .logging else none

def Configuration.standard : Configuration := ⟨.standard, .standard⟩

def Configuration.set (c : Configuration) (x : Located) : Table → Decoded Configuration
  | .server => return { c with server := ← decodeOptions x }
  | .logging => return { c with logging := ← decodeLogging x }

def decode (document : Entries) : Decoded Configuration :=
  document.foldlM (fun c (key, value) =>
    match Table.ofKey? key.name with
    | some table => c.set ⟨key.span, value⟩ table
    | none => .ok c) .standard

end WebListener.Config
