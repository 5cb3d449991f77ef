-- Reading UTF-8. A sequence is accepted in its shortest form only, and neither surrogates nor
-- values past U+10FFFF have one.
namespace WebListener.Text

def continuation (b : UInt8) : Option Nat :=
  if b.toNat / 64 = 2 then some (b.toNat % 64) else none

def decodeUtf8 : List UInt8 → Option (List Char)
  | [] => some []
  | a :: r =>
    if a.toNat < 0x80 then (decodeUtf8 r).map (Char.ofNat a.toNat :: ·)
    else if a.toNat < 0xC2 then none
    else if a.toNat < 0xE0 then
      match r with
      | b :: r => do
        let y ← continuation b
        let rest ← decodeUtf8 r
        some (Char.ofNat (a.toNat % 32 * 64 + y) :: rest)
      | _ => none
    else if a.toNat < 0xF0 then
      match r with
      | b :: c :: r => do
        let y ← continuation b
        let z ← continuation c
        let n := (a.toNat % 16 * 64 + y) * 64 + z
        if n < 0x800 || (0xD800 ≤ n && n < 0xE000) then none
        else
          let rest ← decodeUtf8 r
          some (Char.ofNat n :: rest)
      | _ => none
    else if a.toNat < 0xF5 then
      match r with
      | b :: c :: d :: r => do
        let y ← continuation b
        let z ← continuation c
        let w ← continuation d
        let n := ((a.toNat % 8 * 64 + y) * 64 + z) * 64 + w
        if n < 0x10000 || 0x110000 ≤ n then none
        else
          let rest ← decodeUtf8 r
          some (Char.ofNat n :: rest)
      | _ => none
    else none

def ofUtf8? (bytes : List UInt8) : Option String := (decodeUtf8 bytes).map .ofList

def utf8 (s : String) : List UInt8 := s.toList.flatMap String.utf8EncodeChar

def utf8Length (cs : List Char) : Nat := cs.foldr (fun c length => c.utf8Size + length) 0

end WebListener.Text
