-- Distinguished encoding: a tag byte, a length in its shortest form, the contents.
namespace WebListener.Tls.Der

structure Element where
  tag : UInt8
  contents : List UInt8
deriving DecidableEq, Repr

def sequence : UInt8 := 0x30
def integer : UInt8 := 0x02
def bitString : UInt8 := 0x03
def octetString : UInt8 := 0x04
def null : UInt8 := 0x05
def objectId : UInt8 := 0x06
def boolean : UInt8 := 0x01

def context (n : Nat) : UInt8 := .ofNat (0xA0 + n)

def number (bytes : List UInt8) : Nat := bytes.foldl (fun n b => n * 256 + b.toNat) 0

-- The length of the contents and what follows it; no more than four bytes, none of them idle.
def readLength : List UInt8 → Option (Nat × List UInt8)
  | [] => none
  | b :: rest =>
    if b < 0x80 then some (b.toNat, rest)
    else
      let count := b.toNat - 0x80
      let digits := rest.take count
      let length := number digits
      let least := if count = 1 then 0x80 else Nat.pow 256 (count - 1)
      if 1 ≤ count && count ≤ 4 && digits.length = count && least ≤ length then
        some (length, rest.drop count)
      else none

def read : List UInt8 → Option (Element × List UInt8)
  | [] => none
  | tag :: rest =>
    if tag &&& 0x1F = 0x1F then none
    else do
      let (length, rest) ← readLength rest
      if length ≤ rest.length then some (⟨tag, rest.take length⟩, rest.drop length) else none

def expect (tag : UInt8) (bytes : List UInt8) : Option (List UInt8 × List UInt8) := do
  let (element, rest) ← read bytes
  if element.tag = tag then some (element.contents, rest) else none

def expectOnly (tag : UInt8) (bytes : List UInt8) : Option (List UInt8) := do
  let (contents, rest) ← expect tag bytes
  if rest.isEmpty then some contents else none

def expectOptional (tag : UInt8) (bytes : List UInt8) : Option (Option (List UInt8) × List UInt8) :=
  if bytes.head? = some tag then (expect tag bytes).map fun (contents, rest) => (some contents, rest)
  else some (none, bytes)

def natural? (contents : List UInt8) : Option Nat :=
  match contents with
  | [] => none
  | a :: b :: _ =>
    if 0x80 ≤ a || (a = 0 && b < 0x80) then none else some (number contents)
  | [a] => if 0x80 ≤ a then none else some a.toNat

def readNatural (bytes : List UInt8) : Option (Nat × List UInt8) := do
  let (contents, rest) ← expect integer bytes
  (natural? contents).map (·, rest)

def wholeBits? : List UInt8 → Option (List UInt8)
  | 0 :: bytes => some bytes
  | _ => none

def bytesOf (n : Nat) : List UInt8 :=
  (List.range ((n.log2 + 8) / 8)).reverse.map fun i => .ofNat (n / Nat.pow 256 i)

def fixedBytes (length n : Nat) : List UInt8 :=
  (List.range length).reverse.map fun i => .ofNat (n / Nat.pow 256 i)

def lengthBytes (length : Nat) : List UInt8 :=
  if length < 0x80 then [.ofNat length]
  else
    let digits := bytesOf length
    .ofNat (0x80 + digits.length) :: digits

def element (tag : UInt8) (contents : List UInt8) : List UInt8 :=
  tag :: lengthBytes contents.length ++ contents

def naturalElement (n : Nat) : List UInt8 :=
  let digits := bytesOf n
  element integer (if 0x80 ≤ digits.headD 0 then 0 :: digits else digits)

end WebListener.Tls.Der
