import WebListener.Text.Split
import WebListener.Text.Utf8
import WebListener.Toml.Value
-- Pointing at a place of a document: the line and column where it starts, the line itself, and
-- a row of carets under it that ends with the place or with the line. Columns count characters,
-- the carets bytes.
namespace WebListener.Toml

structure Position where
  line : Nat
  column : Nat
deriving DecidableEq, Repr

def positionAfter (before : List Char) : Position :=
  ⟨before.count '\n', (before.reverse.takeWhile (· ≠ '\n')).length⟩

def carets (spanBytes lineBytes column : Nat) : Nat := max 1 (min spanBytes (lineBytes - column))

def excerpt (document : String) (span : Span) (complaint : String) : String :=
  let cs := document.toList
  let start := cs.length - span.start
  let position := positionAfter (cs.take start)
  let content := (Text.splitAll '\n' cs).getD position.line []
  let spanned := (cs.drop start).take (span.start - span.stop)
  let number := Nat.toDigits 10 (position.line + 1)
  let column := Nat.toDigits 10 (position.column + 1)
  let gutter := List.replicate (number.length + 1) ' ' ++ ['|']
  let pointer := List.replicate (position.column + 1) ' ' ++
    List.replicate (carets (Text.utf8Length spanned) (Text.utf8Length content) position.column) '^'
  "TOML parse error at line " ++ .ofList number ++ ", column " ++ .ofList column ++ "\n" ++
    .ofList (gutter ++ '\n' :: number ++ [' ', '|', ' '] ++ content ++ '\n' :: gutter ++ pointer) ++
    "\n" ++ complaint ++ "\n"

end WebListener.Toml
