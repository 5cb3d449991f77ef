-- Natural numbers in decimal: reading a run of ASCII digits and writing one.
namespace WebListener.Text

def digitOf? (c : Char) : Option Nat :=
  if '0' ≤ c ∧ c ≤ '9' then some (c.toNat - '0'.toNat) else none

def isDigit (c : Char) : Bool := (digitOf? c).isSome

def decimalOnto (value : Nat) : List Char → Option Nat
  | [] => some value
  | c :: rest => (digitOf? c).bind fun d => decimalOnto (value * 10 + d) rest

def decimal? : List Char → Option Nat
  | [] => none
  | cs => decimalOnto 0 cs

def decimalChars (n : Nat) : List Char := Nat.toDigits 10 n

def digitIn? (base : Nat) (c : Char) : Option Nat :=
  let value :=
    if '0' ≤ c ∧ c ≤ '9' then some (c.toNat - '0'.toNat)
    else if 'a' ≤ c ∧ c ≤ 'f' then some (c.toNat - 'a'.toNat + 10)
    else if 'A' ≤ c ∧ c ≤ 'F' then some (c.toNat - 'A'.toNat + 10)
    else none
  value.filter (· < base)

def numberIn (base : Nat) (digits : List Char) : Nat :=
  digits.foldl (fun value c => value * base + (digitIn? base c).getD 0) 0

end WebListener.Text
