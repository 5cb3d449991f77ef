-- Request targets: a path (or a lone asterisk) with an optional query, an authority, or both
-- after a scheme. The fragment of a target is never kept.
namespace WebListener.Http

structure PathQuery where
  path : List Char
  query : Option (List Char)
deriving DecidableEq, Repr

inductive Uri where
  | path (target : PathQuery)
  | authority (authority : List Char)
  | absolute (scheme authority : List Char) (target : PathQuery)
deriving DecidableEq, Repr

namespace PathQuery

def queryText (target : PathQuery) : List Char :=
  match target.query with
  | none => []
  | some query => '?' :: query

-- The root stands for nothing at all, though not for an empty path with a query.
def text (target : PathQuery) : List Char :=
  match target.path ++ target.queryText with
  | [] => ['/']
  | cs => cs

def pathText (target : PathQuery) : List Char :=
  if target.path.isEmpty then ['/'] else target.path

end PathQuery

namespace Uri

def authority? : Uri → Option (List Char)
  | .path _ => none
  | .authority a | .absolute _ a _ => some a

def target? : Uri → Option PathQuery
  | .path target | .absolute _ _ target => some target
  | .authority _ => none

def routePath : Uri → List Char
  | .path target | .absolute _ _ target => target.pathText
  | .authority _ => []

def text : Uri → List Char
  | .path target => target.pathText ++ target.queryText
  | .authority a => a
  | .absolute scheme a target =>
    scheme ++ [':', '/', '/'] ++ a ++ target.pathText ++ target.queryText

end Uri

end WebListener.Http
