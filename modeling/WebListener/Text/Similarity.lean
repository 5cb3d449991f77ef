-- How alike two words are, as a fraction between zero and one: the share of characters that both
-- have at about the same place, less those that stand in a different order.
namespace WebListener.Text

structure Fraction where
  numerator : Nat
  denominator : Nat
deriving DecidableEq, Repr

def Fraction.lt (x y : Fraction) : Bool :=
  x.numerator * y.denominator < y.numerator * x.denominator

def matchReach (x y : List Char) : Nat := max x.length y.length / 2 - 1

def matchPlace (word : List Char) (reach place : Nat) (used : List Nat) (c : Char) : Option Nat :=
  (List.range (min word.length (place + reach + 1))).find? fun j =>
    place - reach ≤ j && word[j]? = some c && !used.contains j

def matched (x y : List Char) : List (Char × Nat) :=
  (x.zipIdx.foldl (fun found (c, place) =>
    match matchPlace y (matchReach x y) place (found.map (·.2)) c with
    | some j => (c, j) :: found
    | none => found) []).reverse

def transpositions (x y : List Char) : Nat :=
  let pairs := matched x y
  let inOrder := y.zipIdx.filter fun (_, j) => pairs.any (·.2 = j)
  ((pairs.zip inOrder).filter fun (a, b) => a.1 ≠ b.1).length / 2

def similarity (x y : List Char) : Fraction :=
  let m := (matched x y).length
  if x.isEmpty && y.isEmpty then ⟨1, 1⟩
  else if m = 0 then ⟨0, 1⟩
  else
    let a := x.length
    let b := y.length
    ⟨m * m * b + m * m * a + (m - transpositions x y) * a * b, 3 * a * b * m⟩

def mostSimilar (bound : Fraction) (word : List Char) (candidates : List (List Char × α)) :
    Option α :=
  (candidates.foldl (fun best (candidate, value) =>
    let score := similarity word candidate
    if (best.1).lt score then (score, some value) else best) (bound, none)).2

end WebListener.Text
