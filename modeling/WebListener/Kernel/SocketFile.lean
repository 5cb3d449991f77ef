import WebListener.Kernel.FileTree
-- Local sockets and the files that stand for them. A name that starts with a NUL is abstract: it
-- is bound without a file.
namespace WebListener.Kernel

-- One more than the bytes that a socket's path may have.
def socketPathLimit : Nat := 108

namespace FileTree

def isAbstract (path : Path) : Bool := path.toList.head? = some '\x00'

def bindFile (tree : FileTree) (path : Path) : Except IoError FileTree := do
  let bare := withoutTrailingSlashes path
  let place ← tree.locate bare
  match tree.node? place with
  | some _ => throw (.os Errno.addressInUse)
  | none =>
    if bare = path then
      tree.granted .bind place
      pure (tree.put place .socket)
    else throw (.os Errno.noEntry)

def bindSocket (tree : FileTree) (path : Path) : Except IoError FileTree :=
  if isAbstract path then
    if socketPathLimit < path.utf8ByteSize then .error .abstractNameTooLong else .ok tree
  else if path.toList.contains '\x00' then .error .nulInSocketPath
  else if socketPathLimit ≤ path.utf8ByteSize then .error .socketPathTooLong
  else tree.bindFile path

def connect (tree : FileTree) (path : Path) (listened : Bool) : Except IoError Unit := do
  if isAbstract path then
    if listened then pure () else throw (.os Errno.connectionRefused)
  else
    let place ← tree.locate path
    match tree.node? place with
    | none => throw (.os Errno.noEntry)
    | some node =>
      tree.granted .connect place
      if node = .socket && listened then pure () else throw (.os Errno.connectionRefused)

end FileTree

end WebListener.Kernel
