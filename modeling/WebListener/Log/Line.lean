import WebListener.Log.Event
import WebListener.Text.Quoted
-- How an event is written: as a line of text, or as an object.
namespace WebListener.Log

inductive Format where
  | text
  | json
deriving DecidableEq, Repr

namespace Line

def levelWidth : Nat := 5

def padded (level : Level) : String :=
  .ofList (List.replicate (levelWidth - level.text.length) ' ') ++ level.text

def textValue : Value → String
  | .label text => Text.quoted text
  | value => value.text

def text (event : Event) : String :=
  padded event.level ++ " " ++ event.origin.target ++ ": " ++ event.message ++
    .join (event.fields.map fun (name, value) => " " ++ name ++ "=" ++ textValue value)

def hexDigits (n : Nat) : List Char := [Nat.digitChar (n / 16), Nat.digitChar (n % 16)]

def escapedChar (c : Char) : List Char :=
  match c with
  | '"' => ['\\', '"']
  | '\\' => ['\\', '\\']
  | '\n' => ['\\', 'n']
  | '\r' => ['\\', 'r']
  | '\t' => ['\\', 't']
  | '\x08' => ['\\', 'b']
  | '\x0c' => ['\\', 'f']
  | c => if c.toNat < 32 then ['\\', 'u', '0', '0'] ++ hexDigits c.toNat else [c]

def quotedJson (text : String) : String :=
  "\"" ++ .ofList (text.toList.flatMap escapedChar) ++ "\""

def jsonValue : Value → String
  | .number n => toString n
  | .flag true => "true"
  | .flag false => "false"
  | .shown text | .label text => quotedJson text

def member (name value : String) : String := quotedJson name ++ ":" ++ value

def objectOf (members : List String) : String := "\x7b" ++ ",".intercalate members ++ "\x7d"

def json (event : Event) : String :=
  objectOf [
    member "level" (quotedJson event.level.text),
    member "fields" (objectOf (member "message" (quotedJson event.message) ::
      event.fields.map fun (name, value) => member name (jsonValue value))),
    member "target" (quotedJson event.origin.target)]

end Line

def Format.line : Format → Event → String
  | .text, event => Line.text event
  | .json, event => Line.json event

end WebListener.Log
