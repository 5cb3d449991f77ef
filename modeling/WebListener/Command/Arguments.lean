import WebListener.Text.Similarity
import WebListener.Text.Split
-- The words on the command line. They are read one after another, and what was read last is only
-- settled when the next option or the end comes; so a missing value is noticed there.
namespace WebListener.Command

inductive Name where
  | config
  | logLevel
  | help
  | version
deriving DecidableEq, Repr

namespace Name

def all : List Name := [.config, .logLevel, .help, .version]

def long : Name → String
  | .config => "config"
  | .logLevel => "log-level"
  | .help => "help"
  | .version => "version"

def short : Name → Char
  | .config => 'c'
  | .logLevel => 'l'
  | .help => 'h'
  | .version => 'V'

def placeholder? : Name → Option String
  | .config => some "<CONFIG>"
  | .logLevel => some "<LOG_LEVEL>"
  | .help | .version => none

def takesValue (name : Name) : Bool := name.placeholder?.isSome

def flag (name : Name) : String := "--" ++ name.long

def usage (name : Name) : String :=
  match name.placeholder? with
  | some value => name.flag ++ " " ++ value
  | none => name.flag

def ofLong? (word : List Char) : Option Name := all.find? (·.long.toList = word)

def ofShort? (c : Char) : Option Name := all.find? (·.short = c)

def similarEnough : Text.Fraction := ⟨7, 10⟩

def similar? (word : List Char) : Option Name :=
  Text.mostSimilar similarEnough word (all.map fun name => (name.long.toList, name))

end Name

inductive Complaint where
  | unexpected (argument : String) (similar : Option Name) (used : List Name)
  | missingValue (name : Name)
  | repeated (name : Name)
  | unneededValue (name : Name) (value : String) (used : List Name)
deriving DecidableEq, Repr

structure Arguments where
  config : Option String
  logLevel : Option String
deriving DecidableEq, Repr

inductive Request where
  | run (arguments : Arguments)
  | tell (name : Name)
deriving DecidableEq, Repr

structure Progress where
  settled : List (Name × String)
  last : Option (Name × Option String)
deriving DecidableEq, Repr

namespace Progress

def initial : Progress := ⟨[], none⟩

def used (progress : Progress) : List Name := progress.settled.map (·.1)

def put (progress : Progress) (name : Name) (value : String) : Except Complaint Progress :=
  if progress.used.contains name then .error (.repeated name)
  else .ok ⟨progress.settled ++ [(name, value)], none⟩

def settle (progress : Progress) : Except Complaint Progress :=
  match progress.last with
  | none => .ok progress
  | some (name, none) => .error (.missingValue name)
  | some (name, some value) => { progress with last := none }.put name value

-- An unknown word is reported even where what stands before it is wrong too.
def usedBefore (progress : Progress) : List Name :=
  match progress.settle with
  | .ok settled => settled.used
  | .error _ => progress.used

def arguments (progress : Progress) : Arguments :=
  ⟨progress.settled.lookup .config, progress.settled.lookup .logLevel⟩

def option (progress : Progress) (name : Name) (attached : Option String) :
    Except Complaint (Progress ⊕ Name) :=
  if name.takesValue then do
    let settled ← progress.settle
    match attached with
    | some value => return .inl (← settled.put name value)
    | none => return .inl { settled with last := some (name, none) }
  else
    match attached with
    | some value => .error (.unneededValue name value progress.usedBefore)
    | none => do
      let _ ← progress.settle
      return .inr name

def long (progress : Progress) (word : List Char) : Except Complaint (Progress ⊕ Name) :=
  let (name, value) := match Text.splitFirst ['='] word with
    | some (name, value) => (name, some (String.ofList value))
    | none => (word, none)
  match Name.ofLong? name with
  | some known => progress.option known value
  | none =>
    .error (.unexpected ("--" ++ .ofList name) (Name.similar? name) progress.usedBefore)

def attachedTo (rest : List Char) : Option String :=
  match rest with
  | [] => none
  | '=' :: value => some (.ofList value)
  | value => some (.ofList value)

def letters (progress : Progress) : List Char → Except Complaint (Progress ⊕ Name)
  | [] => .ok (.inl progress)
  | c :: rest =>
    match Name.ofShort? c with
    | none => .error (.unexpected (.ofList ['-', c]) none [])
    | some name => progress.option name (if name.takesValue then attachedTo rest else none)

def plain (progress : Progress) (word : String) : Except Complaint (Progress ⊕ Name) :=
  match progress.last with
  | some (name, none) => .ok (.inl { progress with last := some (name, some word) })
  | _ => .error (.unexpected word none [])

def word (progress : Progress) (text : String) : Except Complaint (Progress ⊕ Name) :=
  match text.toList with
  | '-' :: '-' :: rest => progress.long rest
  | '-' :: c :: rest => progress.letters (c :: rest)
  | _ => progress.plain text

def words (progress : Progress) : List String → Except Complaint Request
  | [] => progress.settle.map fun settled => .run settled.arguments
  | text :: rest =>
    if text = "--" then
      match rest with
      | [] => progress.settle.map fun settled => .run settled.arguments
      | other :: _ => .error (.unexpected other none [])
    else
      match progress.word text with
      | .error complaint => .error complaint
      | .ok (.inr name) => .ok (.tell name)
      | .ok (.inl progress) => words progress rest

end Progress

def Request.ofWords (words : List String) : Except Complaint Request := Progress.initial.words words

end WebListener.Command
