-- Blank characters and trimming. Blank means the Unicode property White_Space, so a zero
-- width space or a byte order mark stays.
namespace WebListener.Text

def isBlank (c : Char) : Bool :=
  let n := c.toNat
  (0x9 ≤ n && n ≤ 0xD) || n == 0x20 || n == 0x85 || n == 0xA0 || n == 0x1680 ||
    (0x2000 ≤ n && n ≤ 0x200A) || n == 0x2028 || n == 0x2029 || n == 0x202F || n == 0x205F ||
    n == 0x3000

def trimmed (cs : List Char) : List Char :=
  ((cs.dropWhile isBlank).reverse.dropWhile isBlank).reverse

def trim (s : String) : String := .ofList (trimmed s.toList)

def isAllBlank (s : String) : Bool := s.toList.all isBlank

end WebListener.Text
