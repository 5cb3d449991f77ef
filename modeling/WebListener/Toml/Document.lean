import WebListener.Toml.Moment
import WebListener.Toml.Numeral
import WebListener.Toml.Strings
import WebListener.Toml.Table
-- Reading a whole TOML document into its top table. Values may be nested, and keys dotted, up to
-- a limit.
namespace WebListener.Toml

open Text (Reader readWord)

def nestingLimit : Nat := 80

def spanned (read : Reader α) : Reader (α × Span) := fun cs =>
  (read cs).map fun (a, rest) => ((a, ⟨cs.length, rest.length⟩), rest)

def isBareKeyChar (c : Char) : Bool := c.isAlphanum || c = '-' || c = '_'

def readKeyName : Reader String := fun cs =>
  match cs with
  | '"' :: _ | '\'' :: _ => (Strings.readLine cs).map fun (name, rest) => (.ofList name, rest)
  | _ =>
    let name := cs.takeWhile isBareKeyChar
    if name.isEmpty then none else some (.ofList name, cs.drop name.length)

def readKeys : Nat → Reader (List Key)
  | 0, _ => none
  | bound + 1, cs => do
    let ((name, span), rest) ← spanned readKeyName (skipBlanks cs)
    match skipBlanks rest with
    | '.' :: rest => do
      let (keys, rest) ← readKeys bound rest
      some (⟨name, span⟩ :: keys, rest)
    | rest => some ([⟨name, span⟩], rest)

def readPath : Reader (List Key × Key) := fun cs => do
  let (keys, rest) ← readKeys (nestingLimit - 1) cs
  let last ← keys.getLast?
  some ((keys.dropLast, last), rest)

def readScalar : Reader Scalar := fun cs =>
  match cs with
  | '"' :: _ | '\'' :: _ => (Strings.read cs).map fun (text, rest) => (.string (.ofList text), rest)
  | 't' :: _ => (readWord ['t', 'r', 'u', 'e'] cs).map fun (_, rest) => (.boolean true, rest)
  | 'f' :: _ => (readWord ['f', 'a', 'l', 's', 'e'] cs).map fun (_, rest) => (.boolean false, rest)
  | _ =>
    match Moment.read cs with
    | some (text, rest) => some (.moment text, rest)
    | none => Numeral.read cs

def readAssignment (readValue : Reader Value) : Reader Assignment := fun cs => do
  let ((path, key), rest) ← readPath cs
  let (_, rest) ← Text.readChar '=' rest
  let (value, rest) ← readValue (skipBlanks rest)
  some (⟨path, key, value⟩, rest)

def readItems (readValue : Reader Value) : Nat → Reader (List Value)
  | 0, _ => none
  | bound + 1, cs =>
    match skipTrivia cs with
    | ']' :: rest => some ([], rest)
    | cs => do
      let (value, rest) ← readValue cs
      match skipTrivia rest with
      | ',' :: rest => do
        let (values, rest) ← readItems readValue bound rest
        some (value :: values, rest)
      | ']' :: rest => some ([value], rest)
      | _ => none

def readPairs (readValue : Reader Value) : Nat → Reader (List Assignment)
  | 0, _ => none
  | bound + 1, cs => do
    let (a, rest) ← readAssignment readValue cs
    match skipBlanks rest with
    | ',' :: rest => do
      let (others, rest) ← readPairs readValue bound rest
      some (a :: others, rest)
    | '\x7d' :: rest => some ([a], rest)
    | _ => none

def readInline (readValue : Reader Value) : Reader Entries := fun cs => do
  let (assignments, rest) ← match skipBlanks cs with
    | '\x7d' :: rest => some ([], rest)
    | _ => readPairs readValue cs.length cs
  let entries ← Entries.assignAll .inline [] assignments
  some (entries, rest)

-- The number bounds the nesting.
def readValue : Nat → Reader Value
  | depth, cs =>
    match depth, cs with
    | depth + 1, '[' :: rest => do
      let (items, after) ← readItems (readValue depth) (rest.length + 1) rest
      some (.array ⟨cs.length, after.length⟩ false items, after)
    | depth + 1, '\x7b' :: rest => do
      let (entries, after) ← readInline (readValue depth) rest
      some (.table (some ⟨cs.length, after.length⟩) .inline entries, after)
    | _, _ => (spanned readScalar cs).map fun ((content, span), rest) => (.scalar span content, rest)

def readHeader : Reader Section := fun cs => do
  let (repeated, rest) ← match cs with
    | '[' :: '[' :: rest => some (true, rest)
    | '[' :: rest => some (false, rest)
    | _ => none
  let ((path, key), rest) ← readPath rest
  let (_, rest) ← readWord (if repeated then [']', ']'] else [']']) rest
  some (⟨repeated, path, key, ⟨cs.length, rest.length⟩, []⟩, rest)

def readAssignments : Nat → Reader (List Assignment)
  | 0, _ => none
  | bound + 1, cs =>
    match skipTrivia cs with
    | [] => some ([], [])
    | '#' :: rest => if (rest.dropWhile isCommentChar).isEmpty then some ([], []) else none
    | '[' :: rest => some ([], '[' :: rest)
    | cs => do
      let (a, rest) ← readAssignment (readValue (nestingLimit - 1)) cs
      let (_, rest) ← readTrailing rest
      let (others, rest) ← readAssignments bound rest
      some (a :: others, rest)

def readSections : Nat → Reader (List Section)
  | 0, _ => none
  | bound + 1, cs =>
    match cs with
    | [] => some ([], [])
    | _ => do
      let (header, rest) ← readHeader cs
      let (_, rest) ← readTrailing rest
      let (assignments, rest) ← readAssignments (rest.length + 1) rest
      let (others, rest) ← readSections bound rest
      some ({ header with assignments } :: others, rest)

def parse (text : String) : Option Entries := do
  let cs := match text.toList with
    | '\ufeff' :: rest => rest
    | cs => cs
  let (assignments, rest) ← readAssignments (cs.length + 1) cs
  let (sections, _) ← readSections (rest.length + 1) rest
  assemble assignments sections

end WebListener.Toml
