import Sandwich.Bytes

/-! The curve `y ^ 2 = x ^ 3 + 7` over the field of `p` elements. A point is
held in Jacobian form: `(x, y, z)` stands for the point at `x / z ^ 2` and
`y / z ^ 3`, and for the neutral point when `z` is zero. -/

namespace Sandwich.Secp256k1

/-- The size of the field. -/
def p : Nat := 0xfffffffffffffffffffffffffffffffffffffffffffffffffffffffefffffc2f

/-- The number of points. -/
def order : Nat := 0xfffffffffffffffffffffffffffffffebaaedce6af48a03bbfd25e8cd0364141

/-- `base ^ exponent` modulo `m`, for an exponent of at most `bits` bits. -/
def powMod (m : Nat) : (bits exponent base : Nat) → Nat
  | 0, _, _ => 1 % m
  | bits + 1, exponent, base =>
    let half := powMod m bits (exponent / 2) base
    let square := half * half % m
    if exponent % 2 = 1 then square * base % m else square

/-- The inverse modulo a prime of 256 bits. -/
def inverse (m x : Nat) : Nat := powMod m 256 (m - 2) x

structure Point where
  x : Nat
  y : Nat
  z : Nat

namespace Point

def neutral : Point := ⟨1, 1, 0⟩

/-- The point that generates the others. -/
def generator : Point :=
  ⟨0x79be667ef9dcbbac55a06295ce870b07029bfcdb2dce28d959f2815b16f81798,
    0x483ada7726a3c4655da4fbfc0e1108a8fd17b448a68554199c47d08ffb10d4b8, 1⟩

def double (a : Point) : Point :=
  if a.z = 0 || a.y = 0 then neutral
  else
    let yy := a.y * a.y % p
    let s := 4 * a.x * yy % p
    let m := 3 * a.x * a.x % p
    let x := (m * m + 2 * (p - s)) % p
    let y := (m * (s + p - x) + (p - 8 * yy * yy % p)) % p
    ⟨x, y, 2 * a.y * a.z % p⟩

def add (a b : Point) : Point :=
  if a.z = 0 then b
  else if b.z = 0 then a
  else
    let zza := a.z * a.z % p
    let zzb := b.z * b.z % p
    let ua := a.x * zzb % p
    let ub := b.x * zza % p
    let sa := a.y * zzb * b.z % p
    let sb := b.y * zza * a.z % p
    let h := (ub + p - ua) % p
    let r := (sb + p - sa) % p
    if h = 0 then
      if r = 0 then double a else neutral
    else
      let hh := h * h % p
      let hhh := h * hh % p
      let v := ua * hh % p
      let x := (r * r + (p - hhh) + 2 * (p - v)) % p
      let y := (r * (v + p - x) + (p - sa * hhh % p)) % p
      ⟨x, y, h * a.z * b.z % p⟩

/-- The multiple by a number of at most `bits` bits. -/
def scale : (bits k : Nat) → Point → Point
  | 0, _, _ => neutral
  | bits + 1, k, a =>
    let twice := double (scale bits (k / 2) a)
    if k % 2 = 1 then add twice a else twice

/-- The coordinates in the plane; the neutral point has none. -/
def affine? (a : Point) : Option (Nat × Nat) :=
  if a.z = 0 then none
  else
    let i := inverse p a.z
    let ii := i * i % p
    some (a.x * ii % p, a.y * ii * i % p)

/-- The point at `x` whose second coordinate is odd or even as asked. -/
def atX? (x : Nat) (odd : Bool) : Option Point :=
  if p ≤ x then none
  else
    let yy := (x * x * x + 7) % p
    let y := powMod p 256 ((p + 1) / 4) yy
    if y * y % p ≠ yy then none
    else if (y % 2 == 1) == odd then some ⟨x, y, 1⟩
    else some ⟨x, p - y, 1⟩

end Point

end Sandwich.Secp256k1
