import WebListener.Text.Decimal
import WebListener.Toml.Trivia
-- Strings in TOML's four spellings: with escapes or literally, on one line or on several. Each
-- reader starts behind the opening quotes and takes the closing ones with it.
namespace WebListener.Toml.Strings

open Text (Reader)

def simpleEscape : Char → Option Char
  | 'b' => some '\x08'
  | 't' => some '\t'
  | 'n' => some '\n'
  | 'f' => some '\x0c'
  | 'r' => some '\r'
  | '"' => some '"'
  | '\\' => some '\\'
  | _ => none

def scalarValue? (digits : List Char) : Option Char :=
  if digits.all fun c => (Text.digitIn? 16 c).isSome then
    let n := Text.numberIn 16 digits
    if n < 0x110000 && !(0xD800 ≤ n && n < 0xE000) then some (Char.ofNat n) else none
  else none

def readScalarValue (length : Nat) : Reader Char := fun cs =>
  let digits := cs.take length
  if digits.length = length then (scalarValue? digits).map (·, cs.drop length) else none

def readEscape : Reader Char
  | 'u' :: rest => readScalarValue 4 rest
  | 'U' :: rest => readScalarValue 8 rest
  | c :: rest => (simpleEscape c).map (·, rest)
  | [] => none

def isPlain (c : Char) : Bool := isCommentChar c && c ≠ '"' && c ≠ '\\'

def isLiteral (c : Char) : Bool := isCommentChar c && c ≠ '\''

def readBasic : Nat → Reader (List Char)
  | 0, _ => none
  | bound + 1, cs =>
    match cs with
    | [] => none
    | '"' :: rest => some ([], rest)
    | '\\' :: rest => do
      let (c, rest) ← readEscape rest
      let (text, rest) ← readBasic bound rest
      some (c :: text, rest)
    | c :: rest =>
      if isPlain c then (readBasic bound rest).map fun (text, rest) => (c :: text, rest) else none

def readLiteral : Reader (List Char)
  | [] => none
  | '\'' :: rest => some ([], rest)
  | c :: rest =>
    if isLiteral c then (readLiteral rest).map fun (text, rest) => (c :: text, rest) else none

-- Three quotes close a text on several lines; one or two more right before them belong to it.
def closing? (quote : Char) (cs : List Char) : Option (List Char × List Char) :=
  let run := (cs.takeWhile (· = quote)).length
  if run < 3 then none else some (List.replicate (min (run - 3) 2) quote, cs.drop (min run 5))

def continuation? (cs : List Char) : Option (List Char) :=
  (readNewline (skipBlanks cs)).map fun (_, rest) => skipBlankLines rest.length rest

def readBasicLines : Nat → Reader (List Char)
  | 0, _ => none
  | bound + 1, cs =>
    match closing? '"' cs, cs with
    | some closed, _ => some closed
    | none, '"' :: rest => (readBasicLines bound rest).map fun (text, rest) => ('"' :: text, rest)
    | none, '\\' :: rest =>
      match continuation? rest with
      | some rest => readBasicLines bound rest
      | none => do
        let (c, rest) ← readEscape rest
        let (text, rest) ← readBasicLines bound rest
        some (c :: text, rest)
    | none, cs =>
      match readNewline cs, cs with
      | some (_, rest), _ =>
        (readBasicLines bound rest).map fun (text, rest) => ('\n' :: text, rest)
      | none, c :: rest =>
        if isPlain c then (readBasicLines bound rest).map fun (text, rest) => (c :: text, rest)
        else none
      | none, [] => none

def readLiteralLines : Nat → Reader (List Char)
  | 0, _ => none
  | bound + 1, cs =>
    match closing? '\'' cs, readNewline cs, cs with
    | some closed, _, _ => some closed
    | none, some (_, rest), _ =>
      (readLiteralLines bound rest).map fun (text, rest) => ('\n' :: text, rest)
    | none, none, c :: rest =>
      if isCommentChar c then
        (readLiteralLines bound rest).map fun (text, rest) => (c :: text, rest)
      else none
    | none, none, [] => none

def skipFirstNewline (cs : List Char) : List Char :=
  match readNewline cs with
  | some (_, rest) => rest
  | none => cs

def readLine : Reader (List Char)
  | '"' :: rest => readBasic (rest.length + 1) rest
  | '\'' :: rest => readLiteral rest
  | _ => none

def read : Reader (List Char) := fun cs =>
  match cs with
  | '"' :: '"' :: '"' :: rest => readBasicLines (rest.length + 1) (skipFirstNewline rest)
  | '\'' :: '\'' :: '\'' :: rest => readLiteralLines (rest.length + 1) (skipFirstNewline rest)
  | _ => readLine cs

end WebListener.Toml.Strings
