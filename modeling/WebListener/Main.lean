import WebListener.Command.Run
-- The program on a machine: it looks at the files that its words and its configuration name, and
-- prints what a run says. The end of its input closes the listeners as an interrupt does.
namespace WebListener.Command

open Config (Options)
open Kernel (Errno FileTree Path)

def filesOf (options : Options) : List Path :=
  match options.certificateSource with
  | .static certFile keyFile => certFile.toList ++ keyFile.toList
  | .automatic settings => [settings.cachedPath]

def readFile (tree : FileTree) (path : Path) : IO FileTree := do
  try
    let contents ← IO.FS.readBinFile path
    return tree.withFile path contents.toList
  catch
    | .permissionDenied _ code _ =>
      return (tree.withFile path []).denying .read path (.os code.toNat)
    | .inappropriateType _ code _ =>
      return if code.toNat = Errno.isDirectory then tree.withDirectory path else tree
    | _ => return tree

def readFiles (paths : List Path) : IO FileTree := paths.foldlM readFile .empty

def readAll (words : List String) : IO FileTree := do
  match Request.ofWords words with
  | .ok (.run arguments) =>
    let path := configPath arguments
    let files ← readFiles [path]
    match Config.load files path with
    | .ok configuration => readFiles (path :: filesOf configuration.server)
    | .error _ => return files
  | _ => return .empty

def invocation (words : List String) : IO Invocation := do
  return ⟨words, ← IO.getEnv "RUST_LOG", ← readAll words, Net.Network.isolated⟩

def waitForEnd (input : IO.FS.Stream) : IO Unit := do
  let mut line ← input.getLine
  while !line.isEmpty do
    line ← input.getLine

def report (outcome : Outcome) (already : String) : IO Unit := do
  IO.print (outcome.output.drop already.length)
  (← IO.getStdout).flush
  IO.eprint outcome.errors

end WebListener.Command

open WebListener in
def main (words : List String) : IO UInt32 := do
  let invocation ← Command.invocation words
  let outcome := Command.run invocation none
  Command.report outcome ""
  match outcome.code with
  | some code => return .ofNat code.toNat
  | none =>
    Command.waitForEnd (← IO.getStdin)
    let closed := Command.run invocation (some .interrupt)
    Command.report { closed with errors := "" } outcome.output
    return .ofNat ((closed.code.map (·.toNat)).getD 0)
