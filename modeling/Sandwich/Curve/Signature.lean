import Sandwich.Curve.Secp256k1
import Sandwich.Hash.Keccak
import Sandwich.Hash.Sha256

/-! Signatures over the curve: made with a nonce that depends on the key and
the digest alone, and with the smaller of the two possible `s`. -/

namespace Sandwich

/-- A signature, with the parity that singles out the signing key. -/
structure Signature where
  odd : Bool
  r : UInt256
  s : UInt256
deriving DecidableEq

namespace Signature

open Secp256k1

/-- The account of a public point. -/
def accountOf (x y : Nat) : Address :=
  (Keccak.hash (Bytes.ofNat 32 x ++ Bytes.ofNat 32 y)).toAddress

/-- The account of a secret scalar. -/
def account (secret : Nat) : Address :=
  match (Point.generator.scale 256 secret).affine? with
  | some (x, y) => accountOf x y
  | none => Octets.zero 20

/-- The two values from which the nonces are drawn. -/
structure Drawer where
  key : Bytes
  value : Bytes

namespace Drawer

/-- Takes up `seed`, marked with `mark`. -/
def stir (d : Drawer) (mark : UInt8) (seed : Bytes) : Drawer :=
  let key := Sha256.keyed d.key (d.value ++ mark :: seed)
  ⟨key, Sha256.keyed key d.value⟩

/-- The drawer for a secret and a digest. -/
def ofSecret (secret digest : Nat) : Drawer :=
  let seed := Bytes.ofNat 32 secret ++ Bytes.ofNat 32 (digest % order)
  ((Drawer.mk (List.replicate 32 0) (List.replicate 32 1)).stir 0 seed).stir 1 seed

/-- The first draw that is a scalar other than zero, out of `tries`. -/
def draw : (tries : Nat) → Drawer → Option Nat
  | 0, _ => none
  | tries + 1, d =>
    let value := Sha256.keyed d.key d.value
    let k := Bytes.toNat value
    if 0 < k ∧ k < order then some k else draw tries (Drawer.stir ⟨d.key, value⟩ 0 [])

end Drawer

/-- The signature of a digest with a secret scalar. -/
def sign (secret : Nat) (digest : Word) : Option Signature := do
  let z := digest.toNat % order
  let k ← (Drawer.ofSecret secret digest.toNat).draw 64
  let (x, y) ← (Point.generator.scale 256 k).affine?
  let r := x % order
  let s := inverse order k * (z + r * secret) % order
  if r = 0 || s = 0 then none
  else
    let odd := y % 2 == 1
    if order / 2 < s then
      some ⟨!odd, BitVec.ofNat 256 r, BitVec.ofNat 256 (order - s)⟩
    else some ⟨odd, BitVec.ofNat 256 r, BitVec.ofNat 256 s⟩

/-- The account whose key made the signature. Of the two forms of a signature
only the one with the smaller `s` counts. -/
def signer? (digest : Word) (sig : Signature) : Option Address := do
  let r := sig.r.toNat
  let s := sig.s.toNat
  if r = 0 || s = 0 || order ≤ r || order / 2 < s then none
  else
    let point ← Point.atX? r sig.odd
    let i := inverse order r
    let z := digest.toNat % order
    let a := Point.generator.scale 256 ((order - z) * i % order)
    let b := point.scale 256 (s * i % order)
    let (x, y) ← (a.add b).affine?
    some (accountOf x y)

end Signature

end Sandwich
