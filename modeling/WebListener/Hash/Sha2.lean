-- The SHA-2 hash functions. Both word sizes share one definition; the constants are the leading
-- fractional bits of square and cube roots of the first primes.
namespace WebListener.Hash

structure Rotations where
  bigA : Nat × Nat × Nat
  bigE : Nat × Nat × Nat
  smallFirst : Nat × Nat × Nat
  smallSecond : Nat × Nat × Nat

structure Sha2 where
  wordBits : Nat
  rounds : Nat
  rotations : Rotations

namespace Sha2

def isPrime (n : Nat) : Bool := 2 ≤ n && (List.range n).all fun d => d < 2 || n % d ≠ 0

def primes : List Nat := (List.range 410).filter isPrime

def root (power n : Nat) : (bits : Nat) → Nat
  | 0 => 0
  | bits + 1 => go n bits 0
where
  go (n : Nat) : Nat → Nat → Nat
    | 0, r => if Nat.pow (r + 1) power ≤ n then r + 1 else r
    | bit + 1, r =>
      let next := r + Nat.pow 2 (bit + 1)
      go n bit (if Nat.pow next power ≤ n then next else r)

def fractionBits (power wordBits prime : Nat) : BitVec wordBits :=
  .ofNat wordBits (root power (prime * Nat.pow 2 (power * wordBits)) (wordBits + 5))

abbrev Word (h : Sha2) := BitVec h.wordBits

def initial (h : Sha2) : List h.Word := (primes.take 8).map (fractionBits 2 h.wordBits)

def constants (h : Sha2) : List h.Word := (primes.take h.rounds).map (fractionBits 3 h.wordBits)

def big (r : Nat × Nat × Nat) (x : BitVec w) : BitVec w :=
  x.rotateRight r.1 ^^^ x.rotateRight r.2.1 ^^^ x.rotateRight r.2.2

def small (r : Nat × Nat × Nat) (x : BitVec w) : BitVec w :=
  x.rotateRight r.1 ^^^ x.rotateRight r.2.1 ^^^ (x >>> r.2.2)

-- One more word of the schedule; the words are kept last first.
def extend (h : Sha2) (reversed : List h.Word) : List h.Word :=
  let at_ (i : Nat) : h.Word := reversed.getD i 0
  (small h.rotations.smallSecond (at_ 1) + at_ 6 + small h.rotations.smallFirst (at_ 14) + at_ 15)
    :: reversed

def schedule (h : Sha2) (block : List h.Word) : List h.Word :=
  ((List.range (h.rounds - 16)).foldl (fun words _ => h.extend words) block.reverse).reverse

def round (h : Sha2) (state : List h.Word) (constant word : h.Word) : List h.Word :=
  match state with
  | [a, b, c, d, e, f, g, i] =>
    let first := i + big h.rotations.bigE e + ((e &&& f) ^^^ (~~~e &&& g)) + constant + word
    let second := big h.rotations.bigA a + ((a &&& b) ^^^ (a &&& c) ^^^ (b &&& c))
    [first + second, a, b, c, d + first, e, f, g]
  | _ => state

def compress (h : Sha2) (constants state block : List h.Word) : List h.Word :=
  let mixed := (constants.zip (h.schedule block)).foldl (fun s (k, w) => h.round s k w) state
  state.zipWith (· + ·) mixed

def padded (h : Sha2) (bytes : List UInt8) : List UInt8 :=
  let wordBytes := h.wordBits / 8
  let block := 16 * wordBytes
  let zeros := (block - (bytes.length + 1 + 2 * wordBytes) % block) % block
  let length := (List.range (2 * wordBytes)).reverse.map fun i =>
    UInt8.ofNat (8 * bytes.length / Nat.pow 256 i)
  bytes ++ 0x80 :: List.replicate zeros 0 ++ length

def pieces (size : Nat) : Nat → List α → List (List α)
  | 0, _ => []
  | count + 1, xs => if xs.isEmpty then [] else xs.take size :: pieces size count (xs.drop size)

def wordOf (h : Sha2) (bytes : List UInt8) : h.Word :=
  .ofNat h.wordBits (bytes.foldl (fun n b => n * 256 + b.toNat) 0)

def wordBytes (h : Sha2) (word : h.Word) : List UInt8 :=
  (List.range (h.wordBits / 8)).reverse.map fun i => .ofNat (word.toNat / Nat.pow 256 i)

def digest (h : Sha2) (bytes : List UInt8) : List UInt8 :=
  let message := h.padded bytes
  let words := (pieces (h.wordBits / 8) message.length message).map h.wordOf
  let blocks := pieces 16 words.length words
  let constants := h.constants
  (blocks.foldl (h.compress constants) h.initial).flatMap h.wordBytes

def sha256 : Sha2 := ⟨32, 64, (2, 13, 22), (6, 11, 25), (7, 18, 3), (17, 19, 10)⟩

def sha512 : Sha2 := ⟨64, 80, (28, 34, 39), (14, 18, 41), (1, 8, 7), (19, 61, 6)⟩

end Sha2

end WebListener.Hash
