import WebListener.Kernel.IoError
import WebListener.Text.Split
import WebListener.Text.Utf8
-- The files of a machine. A place is the list of names that leads to it from the root; the empty
-- list is the root itself. A path begins at the root or at the working directory and is resolved
-- name by name, so the first name that cannot be passed decides the error.
namespace WebListener.Kernel

abbrev Path := String
abbrev Place := List String

inductive Node where
  | file (contents : List UInt8)
  | directory
  | socket
deriving DecidableEq, Repr

inductive Access where
  | pass
  | read
  | makeDirectory
  | bind
  | connect
  | remove
deriving DecidableEq, Repr

-- `denial` is what the system says to an access that the files by themselves would allow: a missing
-- permission, a read-only or full disk. It is `none` where the access is granted.
structure FileTree where
  entries : List (Place × Node)
  working : Place
  denial : Access → Place → Option IoError

namespace FileTree

def empty : FileTree := ⟨[(["work"], .directory)], ["work"], fun _ _ => none⟩

def node? (tree : FileTree) : Place → Option Node
  | [] => some .directory
  | place => tree.entries.lookup place

def put (tree : FileTree) (place : Place) (node : Node) : FileTree :=
  { tree with entries := (place, node) :: tree.entries.filter (·.1 != place) }

def erase (tree : FileTree) (place : Place) : FileTree :=
  { tree with entries := tree.entries.filter (·.1 != place) }

def granted (tree : FileTree) (access : Access) (place : Place) : Except IoError Unit :=
  match tree.denial access place with
  | some cause => .error cause
  | none => .ok ()

def passable (tree : FileTree) (place : Place) : Except IoError Unit :=
  match tree.node? place with
  | some .directory => tree.granted .pass place
  | some _ => .error (.os Errno.notDirectory)
  | none => .error (.os Errno.noEntry)

def follow (place : Place) (name : String) : Place :=
  if name = "." || name = "" then place
  else if name = ".." then place.dropLast
  else place ++ [name]

def enter (place : Place) (name : String) : Except IoError Place :=
  if 255 < name.utf8ByteSize then .error (.os Errno.nameTooLong) else .ok (follow place name)

def walk (tree : FileTree) (place : Place) : List String → Except IoError Place
  | [] => .ok place
  | name :: names => do
    tree.passable place
    let next ← enter place name
    walk tree next names

def names (path : Path) : List String :=
  (Text.splitAll '/' path.toList).map .ofList

def isAbsolute (path : Path) : Bool := path.toList.head? = some '/'

def start (tree : FileTree) (path : Path) : Place := if isAbsolute path then [] else tree.working

def locate (tree : FileTree) (path : Path) : Except IoError Place :=
  if path.toList.contains '\x00' then .error .nulInFileName
  else if path.isEmpty then .error (.os Errno.noEntry)
  else if 4096 ≤ path.utf8ByteSize then .error (.os Errno.nameTooLong)
  else tree.walk (tree.start path) (names path)

def read (tree : FileTree) (path : Path) : Except IoError (List UInt8) := do
  let place ← tree.locate path
  match tree.node? place with
  | none => throw (.os Errno.noEntry)
  | some node =>
    tree.granted .read place
    match node with
    | .file contents => pure contents
    | .directory => throw (.os Errno.isDirectory)
    | .socket => throw (.os Errno.noSuchDevice)

def readText (tree : FileTree) (path : Path) : Except IoError String := do
  let contents ← tree.read path
  match Text.ofUtf8? contents with
  | some text => pure text
  | none => throw .notUtf8

def holds (tree : FileTree) (path : Path) : Bool :=
  match tree.locate path with
  | .ok place => (tree.node? place).isSome
  | .error _ => false

def isDirectory (tree : FileTree) (path : Path) : Bool :=
  match tree.locate path with
  | .ok place => tree.node? place = some .directory
  | .error _ => false

def remove (tree : FileTree) (path : Path) : Except IoError FileTree := do
  let place ← tree.locate path
  match tree.node? place with
  | none => throw (.os Errno.noEntry)
  | some node =>
    tree.granted .remove place
    if node = .directory then throw (.os Errno.isDirectory) else pure (tree.erase place)

def withoutTrailingSlashes (path : Path) : Path :=
  .ofList (path.toList.reverse.dropWhile (· = '/')).reverse

-- What is there already is told before anything is denied.
def makeDirectory (tree : FileTree) (path : Path) : Except IoError FileTree := do
  let place ← tree.locate (withoutTrailingSlashes path)
  match tree.node? place with
  | some _ => throw (.os Errno.alreadyThere)
  | none =>
    tree.granted .makeDirectory place
    pure (tree.put place .directory)

def ensureDirectory (tree : FileTree) (path : Path) : Except IoError FileTree :=
  match tree.makeDirectory path with
  | .ok made => .ok made
  | .error e =>
    if e = .os Errno.alreadyThere && tree.isDirectory path then .ok tree else .error e

def steps (path : Path) : Place := (names path).filter fun name => name != "" && name != "."

def parents (path : Path) : List Path :=
  let parts := steps path
  let root := if isAbsolute path then "/" else ""
  (List.range (parts.length - 1)).map fun dropped =>
    root ++ "/".intercalate (parts.take (parts.length - 1 - dropped))

structure Attempt where
  files : FileTree
  failure : Option IoError

-- Makes the first path; where its parent is missing, the others first. What was made before a
-- failure stays.
def makeMissing (tree : FileTree) : List Path → Attempt
  | [] => ⟨tree, none⟩
  | path :: shorter =>
    match tree.ensureDirectory path with
    | .ok made => ⟨made, none⟩
    | .error e =>
      if e = .os Errno.noEntry then
        let parent := makeMissing tree shorter
        match parent.failure, parent.files.ensureDirectory path with
        | some _, _ => parent
        | none, .ok made => ⟨made, none⟩
        | none, .error e => ⟨parent.files, some e⟩
      else ⟨tree, some e⟩

def makeDirectories (tree : FileTree) (path : Path) : Attempt :=
  if path.isEmpty || path.toList.all (· = '/') then ⟨tree, none⟩
  else tree.makeMissing (path :: parents path)

def putDirectory (tree : FileTree) (place : Place) : FileTree :=
  match tree.node? place with
  | some _ => tree
  | none => tree.put place .directory

def lay (tree : FileTree) (place : Place) : List String → FileTree × Place
  | [] => (tree, place)
  | name :: names => lay (tree.putDirectory place) (follow place name) names

def withDirectory (tree : FileTree) (path : Path) : FileTree :=
  let (laid, place) := tree.lay (tree.start path) (names path)
  laid.putDirectory place

def withFile (tree : FileTree) (path : Path) (contents : List UInt8) : FileTree :=
  let (laid, place) := tree.lay (tree.start path) (names path)
  laid.put place (.file contents)

def ofLists (directories : List Path) (files : List (Path × List UInt8)) : FileTree :=
  let tree := directories.foldl withDirectory empty
  files.foldl (fun tree (path, contents) => tree.withFile path contents) tree

def denying (tree : FileTree) (access : Access) (path : Path) (cause : IoError) : FileTree :=
  match tree.locate path with
  | .error _ => tree
  | .ok denied =>
    { tree with
      denial := fun asked place =>
        if asked = access && place = denied then some cause else tree.denial asked place }

end FileTree

end WebListener.Kernel
