import WebListener.Text.Decimal
import WebListener.Toml.Value
import WebListener.Text.Reader
-- TOML's integers and floating point numbers. An underscore may stand between two digits.
-- Integers have 64 bits; a number too large to be finite is refused unless it is negative.
namespace WebListener.Toml.Numeral

open Number (Double)
open Text (Reader)

def digitsOnto (isOne : Char → Bool) : List Char → List Char × List Char
  | '_' :: d :: rest =>
    if isOne d then
      let (digits, rest) := digitsOnto isOne rest
      (d :: digits, rest)
    else ([], '_' :: d :: rest)
  | d :: rest =>
    if isOne d then
      let (digits, rest) := digitsOnto isOne rest
      (d :: digits, rest)
    else ([], d :: rest)
  | [] => ([], [])

def readDigits (isOne : Char → Bool) : Reader (List Char) := fun cs =>
  match cs with
  | d :: _ => if isOne d then some (digitsOnto isOne cs) else none
  | [] => none

def readWhole : Reader (List Char) := fun cs =>
  match cs with
  | '0' :: rest => some (['0'], rest)
  | _ => readDigits Text.isDigit cs

def readSign : List Char → Option Char × List Char
  | '+' :: rest => (some '+', rest)
  | '-' :: rest => (some '-', rest)
  | cs => (none, cs)

def valueOf (digits : List Char) : Nat := Text.numberIn 10 digits

def readFraction : Reader (List Char)
  | '.' :: rest => readDigits Text.isDigit rest
  | cs => some ([], cs)

def readExponent : Reader Int := fun cs =>
  match cs with
  | 'e' :: rest | 'E' :: rest => do
    let (sign, rest) := readSign rest
    let (digits, rest) ← readDigits Text.isDigit rest
    some (if sign = some '-' then -(valueOf digits : Int) else valueOf digits, rest)
  | _ => some (0, cs)

def integer? (n : Int) : Option Scalar :=
  if -9223372036854775808 ≤ n ∧ n ≤ 9223372036854775807 then some (.integer n) else none

def float? (x : Double) : Option Scalar :=
  if x.isPositiveInfinity then none else some (.float x)

def readDecimal (negative : Bool) : Reader Scalar := fun cs => do
  let (whole, afterWhole) ← readWhole cs
  let (fraction, afterFraction) ← readFraction afterWhole
  let (exponent, rest) ← readExponent afterFraction
  if rest.length = afterWhole.length then
    let n : Int := valueOf whole
    (integer? (if negative then -n else n)).map (·, rest)
  else
    let x := Double.ofDecimal negative (valueOf (whole ++ fraction)) (exponent - fraction.length)
    (float? x).map (·, rest)

def readBased (base : Nat) : Reader Scalar := fun cs => do
  let (digits, rest) ← readDigits (fun c => (Text.digitIn? base c).isSome) cs
  (integer? (Text.numberIn base digits)).map (·, rest)

def read : Reader Scalar := fun cs =>
  match cs with
  | '0' :: 'x' :: rest => readBased 16 rest
  | '0' :: 'o' :: rest => readBased 8 rest
  | '0' :: 'b' :: rest => readBased 2 rest
  | _ =>
    let (sign, body) := readSign cs
    match body with
    | 'i' :: 'n' :: 'f' :: rest => some (.float (.infinite (sign = some '-')), rest)
    | 'n' :: 'a' :: 'n' :: rest => some (.float .nan, rest)
    | _ => readDecimal (sign = some '-') body

end WebListener.Toml.Numeral
