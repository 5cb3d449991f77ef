import WebListener.Tls.Fault
-- Base64 as it stands in key files: blanks anywhere, padding at the end or none. A byte that is
-- no part of the alphabet is refused when it is reached, padding too early when the block of
-- eight symbols that holds it is full.
namespace WebListener.Tls.Base64

inductive Symbol where
  | bits (n : Nat)
  | pad
deriving DecidableEq, Repr

def Symbol.isPad : Symbol → Bool
  | .pad => true
  | .bits _ => false

def Symbol.value : Symbol → Nat
  | .bits n => n
  | .pad => 0

def isBlank (b : UInt8) : Bool := b = 32 || (9 ≤ b && b ≤ 13)

def symbol? (b : UInt8) : Option Symbol :=
  let c := Char.ofNat b.toNat
  if 'A' ≤ c ∧ c ≤ 'Z' then some (.bits (c.toNat - 'A'.toNat))
  else if 'a' ≤ c ∧ c ≤ 'z' then some (.bits (c.toNat - 'a'.toNat + 26))
  else if '0' ≤ c ∧ c ≤ '9' then some (.bits (c.toNat - '0'.toNat + 52))
  else if c = '+' then some (.bits 62)
  else if c = '/' then some (.bits 63)
  else if c = '=' then some .pad
  else none

def groupBytes (group : List Symbol) : List UInt8 :=
  let n := (List.range 4).foldl (fun n i => n * 64 + ((group[i]?.map Symbol.value).getD 0)) 0
  [.ofNat (n / 65536), .ofNat (n / 256), .ofNat n]

def blockSize : Nat := 8

structure Progress where
  block : List Symbol
  bytes : List UInt8

def Progress.initial : Progress := ⟨[], []⟩

def Progress.push (p : Progress) (s : Symbol) : Except Base64Fault Progress :=
  if p.block.length < blockSize then .ok { p with block := p.block ++ [s] }
  else if p.block.any Symbol.isPad then .error .prematurePadding
  else .ok ⟨[s], p.bytes ++ groupBytes (p.block.take 4) ++ groupBytes (p.block.drop 4)⟩

def Progress.step (p : Progress) (b : UInt8) : Except Base64Fault Progress :=
  if isBlank b then .ok p
  else match symbol? b with
    | none => .error (.invalidCharacter b)
    | some s => p.push s

def lastBytes (group : List Symbol) : Except Base64Fault (List UInt8) :=
  match group.map Symbol.isPad with
  | [] => .ok []
  | [false, false, false, false] => .ok (groupBytes group)
  | [false, false, false, true] | [false, false, false] => .ok ((groupBytes group).take 2)
  | [false, false, true, true] | [false, false] => .ok ((groupBytes group).take 1)
  | _ => .error .trailingPadding

def Progress.finish (p : Progress) : Except Base64Fault (List UInt8) :=
  if p.block.length ≤ 4 then (lastBytes p.block).map (p.bytes ++ ·)
  else if (p.block.take 4).any Symbol.isPad then .error .prematurePadding
  else (lastBytes (p.block.drop 4)).map (p.bytes ++ groupBytes (p.block.take 4) ++ ·)

def decode (text : List UInt8) : Except Base64Fault (List UInt8) := do
  let p ← text.foldlM Progress.step .initial
  p.finish

def urlSymbol (n : Nat) : Char :=
  "ABCDEFGHIJKLMNOPQRSTUVWXYZabcdefghijklmnopqrstuvwxyz0123456789-_".toList.getD n '-'

def urlGroup (a b c : Nat) : List Char :=
  let n := (a * 256 + b) * 256 + c
  [urlSymbol (n / 262144), urlSymbol (n / 4096 % 64), urlSymbol (n / 64 % 64), urlSymbol (n % 64)]

def urlText : List UInt8 → List Char
  | a :: b :: c :: rest => urlGroup a.toNat b.toNat c.toNat ++ urlText rest
  | [a, b] => (urlGroup a.toNat b.toNat 0).take 3
  | [a] => (urlGroup a.toNat 0 0).take 2
  | [] => []

end WebListener.Tls.Base64
