import WebListener.Text.Decimal
import WebListener.Text.Reader
-- Dates and times of day, alone or together. Days have to exist in their month; a time of day
-- has seconds, perhaps with a fraction, and only a full date may carry an offset.
namespace WebListener.Toml.Moment

open Text (Reader readChar)

def readNumber (length low high : Nat) : Reader Nat := fun cs =>
  match Text.decimal? (cs.take length) with
  | some n =>
    if length ≤ cs.length && low ≤ n && n ≤ high then some (n, cs.drop length) else none
  | none => none

def isLeapYear (year : Nat) : Bool := year % 4 = 0 && (year % 100 ≠ 0 || year % 400 = 0)

def daysIn (year month : Nat) : Nat :=
  if month = 2 then if isLeapYear year then 29 else 28
  else if month = 4 || month = 6 || month = 9 || month = 11 then 30
  else 31

def readDate : Reader Unit := fun cs => do
  let (year, cs) ← readNumber 4 0 9999 cs
  let (_, cs) ← readChar '-' cs
  let (month, cs) ← readNumber 2 1 12 cs
  let (_, cs) ← readChar '-' cs
  let (_, cs) ← readNumber 2 1 (daysIn year month) cs
  some ((), cs)

def readMinutes : Reader Unit := fun cs => do
  let (_, cs) ← readNumber 2 0 23 cs
  let (_, cs) ← readChar ':' cs
  let (_, cs) ← readNumber 2 0 59 cs
  some ((), cs)

def readTime : Reader Unit := fun cs => do
  let (_, cs) ← readMinutes cs
  let (_, cs) ← readChar ':' cs
  let (_, cs) ← readNumber 2 0 60 cs
  match cs with
  | '.' :: d :: rest => if Text.isDigit d then some ((), rest.dropWhile Text.isDigit) else none
  | '.' :: [] => none
  | _ => some ((), cs)

def readOffset : Reader Unit := fun cs =>
  match cs with
  | 'Z' :: rest | 'z' :: rest => some ((), rest)
  | '+' :: rest | '-' :: rest => readMinutes rest
  | _ => some ((), cs)

def isDelimiter (c : Char) : Bool := c = 'T' || c = 't' || c = ' '

-- What may follow a date; a blank with no time behind it does not belong to it.
def readTimeOfDate : Reader Unit := fun cs =>
  match cs with
  | c :: rest =>
    if isDelimiter c then
      match readTime rest with
      | some (_, rest) => readOffset rest
      | none => some ((), cs)
    else some ((), cs)
  | [] => some ((), [])

def read : Reader String := fun cs => do
  let (_, rest) ← match readDate cs with
    | some (_, rest) => readTimeOfDate rest
    | none => readTime cs
  some (.ofList (cs.take (cs.length - rest.length)), rest)

end WebListener.Toml.Moment
