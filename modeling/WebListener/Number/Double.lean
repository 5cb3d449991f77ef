-- Floating point numbers with a 53-bit significand, as exact multiples of powers of two, and the
-- nearest such number to a decimal one; of two equally near the one with the even significand.
namespace WebListener.Number

-- A finite number is m · 2^q with m < 2^53; either m ≥ 2^52 or q = -1074.
inductive Double where
  | finite (negative : Bool) (m : Nat) (q : Int)
  | infinite (negative : Bool)
  | nan
deriving DecidableEq, Repr

namespace Double

def smallestExponent : Int := -1074
def largestExponent : Int := 971

def zero (negative : Bool) : Double := .finite negative 0 smallestExponent

def nearest (num den : Nat) : Nat :=
  let floor := num / den
  let twice := 2 * (num % den)
  if twice < den || (twice = den && floor % 2 = 0) then floor else floor + 1

def scaled (num den : Nat) (q : Int) : Nat × Nat :=
  if 0 ≤ q then (num, den * Nat.pow 2 q.toNat) else (num * Nat.pow 2 (-q).toNat, den)

def exponentFor (num den : Nat) : Int :=
  let guess : Int := (num.log2 : Int) - den.log2 - 52
  let (n, d) := scaled num den guess
  max smallestExponent (if n < d * Nat.pow 2 52 then guess - 1 else guess)

def ofFraction (negative : Bool) (num den : Nat) : Double :=
  let q := exponentFor num den
  let (n, d) := scaled num den q
  let m := nearest n d
  let (m, q) := if m = Nat.pow 2 53 then (Nat.pow 2 52, q + 1) else (m, q)
  if largestExponent < q then .infinite negative else .finite negative m q

def digitCount (n : Nat) : Nat := (Nat.toDigits 10 n).length

def ofDecimal (negative : Bool) (digits : Nat) (exponent : Int) : Double :=
  let magnitude := exponent + digitCount digits
  if digits = 0 || magnitude < -400 then zero negative
  else if 400 < magnitude then .infinite negative
  else if 0 ≤ exponent then ofFraction negative (digits * Nat.pow 10 exponent.toNat) 1
  else ofFraction negative digits (Nat.pow 10 (-exponent).toNat)

def isPositiveInfinity : Double → Bool
  | .infinite false => true
  | _ => false

end Double

end WebListener.Number
