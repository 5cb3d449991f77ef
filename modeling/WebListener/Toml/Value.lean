import WebListener.Number.Double
-- What a TOML document holds. Tables keep their entries in the order of the document, and a
-- value knows where it is written. A place is given by how many characters follow from there to
-- the end of the document.
namespace WebListener.Toml

structure Span where
  start : Nat
  stop : Nat
deriving DecidableEq, Repr

structure Key where
  name : String
  span : Span
deriving DecidableEq, Repr

inductive Scalar where
  | string (text : String)
  | integer (n : Int)
  | float (x : Number.Double)
  | boolean (b : Bool)
  | moment (text : String)
deriving DecidableEq, Repr

-- How a table came about: under a header of its own, only on the way to another header, by a
-- dotted key, or between braces.
inductive Form where
  | header
  | implicit
  | dotted
  | inline
deriving DecidableEq, Repr

inductive Value where
  | scalar (span : Span) (content : Scalar)
  | array (span : Span) (repeated : Bool) (items : List Value)
  | table (span : Option Span) (form : Form) (entries : List (Key × Value))
deriving Repr

abbrev Entries := List (Key × Value)

def Value.span? : Value → Option Span
  | .scalar span _ => some span
  | .array span _ _ => some span
  | .table span _ _ => span

namespace Entries

def find? (name : String) : Entries → Option Value
  | [] => none
  | (key, value) :: rest => if key.name = name then some value else find? name rest

def replace (name : String) (value : Value) : Entries → Entries
  | [] => []
  | (key, old) :: rest =>
    if key.name = name then (key, value) :: rest else (key, old) :: replace name value rest

def erase (name : String) (entries : Entries) : Entries := entries.filter (·.1.name != name)

end Entries

end WebListener.Toml
