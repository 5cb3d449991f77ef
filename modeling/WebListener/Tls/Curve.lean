-- Points of the elliptic curves that keys are made on: y² = x³ + a·x + b over a prime field, and
-- the twisted Edwards curve of Ed25519. Only whole multiples of a base point are needed.
namespace WebListener.Tls

def powMod (base modulus : Nat) : (bits exponent : Nat) → Nat
  | 0, _ => 1 % modulus
  | bits + 1, exponent =>
    let half := powMod base modulus bits (exponent / 2)
    let square := half * half % modulus
    if exponent % 2 = 1 then square * base % modulus else square

def invMod (x p : Nat) : Nat := powMod x p (p.log2 + 1) (p - 2)

def subMod (x y p : Nat) : Nat := (x + (p - y % p)) % p

structure Weierstrass where
  p : Nat
  a : Nat
  gx : Nat
  gy : Nat
  order : Nat
deriving DecidableEq, Repr

namespace Weierstrass

abbrev Point := Option (Nat × Nat)

def alongSlope (c : Weierstrass) (slope x₁ y₁ x₂ : Nat) : Point :=
  let x := subMod (subMod (slope * slope) x₁ c.p) x₂ c.p
  some (x, subMod (slope * subMod x₁ x c.p) y₁ c.p)

def double (c : Weierstrass) : Point → Point
  | none => none
  | some (x, y) =>
    if y = 0 then none
    else c.alongSlope ((3 * x * x + c.a) * invMod (2 * y % c.p) c.p % c.p) x y x

def add (c : Weierstrass) : Point → Point → Point
  | none, q => q
  | p, none => p
  | some (x₁, y₁), some (x₂, y₂) =>
    if x₁ = x₂ then if y₁ = y₂ then c.double (some (x₁, y₁)) else none
    else c.alongSlope (subMod y₂ y₁ c.p * invMod (subMod x₂ x₁ c.p) c.p % c.p) x₁ y₁ x₂

def multiple (c : Weierstrass) (point : Point) : (bits scalar : Nat) → Point
  | 0, _ => none
  | bits + 1, scalar =>
    let even := c.double (c.multiple point bits (scalar / 2))
    if scalar % 2 = 1 then c.add even point else even

def publicPoint (c : Weierstrass) (scalar : Nat) : Point :=
  c.multiple (some (c.gx, c.gy)) (c.order.log2 + 1) scalar

def fieldBytes (c : Weierstrass) : Nat := (c.p.log2 + 8) / 8

def p256 : Weierstrass where
  p := Nat.pow 2 256 - Nat.pow 2 224 + Nat.pow 2 192 + Nat.pow 2 96 - 1
  a := Nat.pow 2 256 - Nat.pow 2 224 + Nat.pow 2 192 + Nat.pow 2 96 - 4
  gx := 0x6b17d1f2e12c4247f8bce6e563a440f277037d812deb33a0f4a13945d898c296
  gy := 0x4fe342e2fe1a7f9b8ee7eb4a7c0f9e162bce33576b315ececbb6406837bf51f5
  order := 0xffffffff00000000ffffffffffffffffbce6faada7179e84f3b9cac2fc632551

def p384 : Weierstrass where
  p := Nat.pow 2 384 - Nat.pow 2 128 - Nat.pow 2 96 + Nat.pow 2 32 - 1
  a := Nat.pow 2 384 - Nat.pow 2 128 - Nat.pow 2 96 + Nat.pow 2 32 - 4
  gx := 0xaa87ca22be8b05378eb1c71ef320ad746e1d3b628ba79b9859f741e082542a385502f25dbf55296c3a545e3872760ab7
  gy := 0x3617de4a96262c6f5d9e98bf9292dc29f8f41dbd289a147ce9da3113b5f0b8c00a60b1ce1d7e819d7a431d7c90ea0e5f
  order := 0xffffffffffffffffffffffffffffffffffffffffffffffffc7634d81f4372ddf581a0db248b0a77aecec196accc52973

def p521 : Weierstrass where
  p := Nat.pow 2 521 - 1
  a := Nat.pow 2 521 - 4
  gx := 0xc6858e06b70404e9cd9e3ecb662395b4429c648139053fb521f828af606b4d3dbaa14b5e77efe75928fe1dc127a2ffa8de3348b3c1856a429bf97e7e31c2e5bd66
  gy := 0x11839296a789a3bc0045c8a5fb42c7d1bd998f54449579b446817afbd17273e662c97ee72995ef42640c550b9013fad0761353c7086a272c24088be94769fd16650
  order := 0x1fffffffffffffffffffffffffffffffffffffffffffffffffffffffffffffffffa51868783bf2f966b7fcc0148f709a5d03bb5c9b8899c47aebb6fb71e91386409

end Weierstrass

-- The curve -x² + y² = 1 + d·x²·y².
namespace Edwards

def p : Nat := Nat.pow 2 255 - 19

def d : Nat := subMod 0 (121665 * invMod 121666 p) p

def baseX : Nat := 0x216936d3cd6e53fec0a4e231fdd6dc5c692cc7609525a7b2c9562d608f25d51a
def baseY : Nat := 0x6666666666666666666666666666666666666666666666666666666666666658

structure Point where
  x : Nat
  y : Nat

def add (d : Nat) (a b : Point) : Point :=
  let cross := d * (a.x * b.x % p) * (a.y * b.y % p) % p
  ⟨(a.x * b.y + a.y * b.x) * invMod (1 + cross) p % p,
    (a.y * b.y + a.x * b.x) * invMod (subMod 1 cross p) p % p⟩

def multiple (d : Nat) (point : Point) : (bits scalar : Nat) → Point
  | 0, _ => ⟨0, 1⟩
  | bits + 1, scalar =>
    let half := multiple d point bits (scalar / 2)
    let even := add d half half
    if scalar % 2 = 1 then add d even point else even

def encoded (point : Point) : List UInt8 :=
  let n := point.y + point.x % 2 * Nat.pow 2 255
  (List.range 32).map fun i => .ofNat (n / Nat.pow 256 i)

def clamped (hash : List UInt8) : Nat :=
  let n := (hash.take 32).reverse.foldl (fun n b => n * 256 + b.toNat) 0
  n % Nat.pow 2 254 / 8 * 8 + Nat.pow 2 254

def publicKey (hash : List UInt8) : List UInt8 :=
  encoded (multiple d ⟨baseX, baseY⟩ 255 (clamped hash))

end Edwards

end WebListener.Tls
