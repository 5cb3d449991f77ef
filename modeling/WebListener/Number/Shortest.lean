import WebListener.Number.Double
-- The shortest decimal text of a floating point number: the fewest digits that still read back
-- as the number, and of those the nearest. Always positional, with at least one decimal place.
namespace WebListener.Number

namespace Double

structure Interval where
  low : Nat
  high : Nat
  closed : Bool

def interval (m : Nat) (q : Int) : Interval :=
  ⟨if m = Nat.pow 2 52 && smallestExponent < q then 4 * m - 1 else 4 * m - 2, 4 * m + 2,
    m % 2 = 0⟩

def gridStep (q : Int) (place : Int) : Nat × Nat :=
  let tens := if 0 ≤ place then (Nat.pow 10 place.toNat, 1) else (1, Nat.pow 10 (-place).toNat)
  let twos := q - 2
  if 0 ≤ twos then (tens.1, tens.2 * Nat.pow 2 twos.toNat)
  else (tens.1 * Nat.pow 2 (-twos).toNat, tens.2)

def Interval.contains (i : Interval) (num den : Nat) : Bool :=
  (i.low * den < num && num < i.high * den) ||
    (i.closed && (i.low * den = num || num = i.high * den))

def onGrid (m : Nat) (q : Int) (place : Int) : Option Nat :=
  let (num, den) := gridStep q place
  let value := 4 * m * den
  let below := value / num
  let above := below + 1
  let i := interval m q
  match i.contains (below * num) den, i.contains (above * num) den with
  | true, true => some (if value - below * num < above * num - value then below else above)
  | true, false => some below
  | false, true => some above
  | false, false => none

def decimalPoint (m : Nat) (q : Int) : Int :=
  let (num, den) := if 0 ≤ q then (m * Nat.pow 2 q.toNat, 1) else (m, Nat.pow 2 (-q).toNat)
  if den ≤ num then digitCount (num / den) else 1 - (digitCount (den / num) : Int)

-- Digits and the place of the last one, from the coarsest grid on: that of the power of ten next
-- above. Seventeen digits always read back.
def shortest (m : Nat) (q : Int) : Nat × Int :=
  let point := decimalPoint m q
  let found := (List.range 18).findSome? fun (dropped : Nat) =>
    let place := point - dropped
    (onGrid m q place).map (·, place)
  found.getD (m, q)

def positional (digits : List Char) (place : Int) : List Char :=
  if 0 ≤ place then digits ++ List.replicate place.toNat '0' ++ ['.', '0']
  else
    let places := (-place).toNat
    let padded := List.replicate (places + 1 - digits.length) '0' ++ digits
    padded.take (padded.length - places) ++ '.' :: padded.drop (padded.length - places)

def sign (negative : Bool) : List Char := if negative then ['-'] else []

def text : Double → String
  | .nan => "NaN"
  | .infinite negative => .ofList (sign negative ++ ['i', 'n', 'f'])
  | .finite negative m q =>
    if m = 0 then .ofList (sign negative ++ ['0', '.', '0'])
    else
      let (digits, place) := shortest m q
      .ofList (sign negative ++ positional (Nat.toDigits 10 digits) place)

end Double

end WebListener.Number
