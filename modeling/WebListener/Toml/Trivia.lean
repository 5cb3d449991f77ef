import WebListener.Text.Reader
-- What stands between the parts of a TOML document: blanks, comments and line ends. A carriage
-- return counts only in front of a line feed.
namespace WebListener.Toml

def isBlank (c : Char) : Bool := c = ' ' || c = '\t'

def skipBlanks (cs : List Char) : List Char := cs.dropWhile isBlank

def isCommentChar (c : Char) : Bool := c = '\t' || (0x20 ≤ c.toNat && c.toNat ≠ 0x7F)

def readNewline : Text.Reader Unit
  | '\n' :: rest => some ((), rest)
  | '\r' :: '\n' :: rest => some ((), rest)
  | _ => none

def skipComment : List Char → List Char
  | '#' :: rest => rest.dropWhile isCommentChar
  | cs => cs

def readLineEnd : Text.Reader Unit
  | [] => some ((), [])
  | cs => readNewline cs

def readTrailing : Text.Reader Unit := fun cs => readLineEnd (skipComment (skipBlanks cs))

def skipBlankLines : Nat → List Char → List Char
  | 0, cs => cs
  | count + 1, cs =>
    match readNewline (skipBlanks cs) with
    | some (_, rest) => skipBlankLines count rest
    | none => skipBlanks cs

def skipLines : Nat → List Char → List Char
  | 0, cs => cs
  | count + 1, cs =>
    match readNewline (skipComment (skipBlanks cs)) with
    | some (_, rest) => skipLines count rest
    | none => skipBlanks cs

def skipTrivia (cs : List Char) : List Char := skipLines cs.length cs

end WebListener.Toml
