import Sandwich.Bytes

/-! The sponge over twenty-five lanes of sixty-four bits, with the padding and
the rate that give hashes of thirty-two bytes. Lane `(x, y)` has index
`x + 5 * y`. -/

namespace Sandwich.Keccak

abbrev State := Vector UInt64 25

/-- The lane at column `x` and row `y`, both counted modulo five. -/
def lane (a : State) (x y : Nat) : UInt64 :=
  a.get ⟨x % 5 + 5 * (y % 5), by omega⟩

/-- Rotation to the left by less than a lane. -/
def rotate (x : UInt64) (n : Nat) : UInt64 :=
  if n = 0 then x else x <<< UInt64.ofNat n ||| x >>> UInt64.ofNat (64 - n)

def roundConstants : List UInt64 := [
  0x0000000000000001, 0x0000000000008082, 0x800000000000808a, 0x8000000080008000,
  0x000000000000808b, 0x0000000080000001, 0x8000000080008081, 0x8000000000008009,
  0x000000000000008a, 0x0000000000000088, 0x0000000080008009, 0x000000008000000a,
  0x000000008000808b, 0x800000000000008b, 0x8000000000008089, 0x8000000000008003,
  0x8000000000008002, 0x8000000000000080, 0x000000000000800a, 0x800000008000000a,
  0x8000000080008081, 0x8000000000008080, 0x0000000080000001, 0x8000000080008008]

/-- The amounts by which the lanes are rotated. -/
def offsets : Vector Nat 25 :=
  #v[0, 1, 62, 28, 27, 36, 44, 6, 55, 20, 3, 10, 43, 25, 39, 41, 45, 15, 21, 8, 18, 2, 61, 56, 14]

/-- The parity of a column. -/
def parity (a : State) (x : Nat) : UInt64 :=
  lane a x 0 ^^^ lane a x 1 ^^^ lane a x 2 ^^^ lane a x 3 ^^^ lane a x 4

/-- Each lane takes up the parities of two neighbouring columns. -/
def theta (a : State) : State :=
  let parities : Vector UInt64 5 := Vector.ofFn fun x => parity a x
  let effect : Vector UInt64 5 := Vector.ofFn fun x =>
    parities.get ⟨(x.val + 4) % 5, by omega⟩ ^^^
      rotate (parities.get ⟨(x.val + 1) % 5, by omega⟩) 1
  Vector.ofFn fun i => a[i] ^^^ effect.get ⟨i.val % 5, by omega⟩

/-- The lanes are rotated and moved. -/
def rhoPi (a : State) : State :=
  Vector.ofFn fun i =>
    let x := (i.val % 5 + 3 * (i.val / 5)) % 5
    let y := i.val % 5
    rotate (lane a x y) (offsets.get ⟨x % 5 + 5 * (y % 5), by omega⟩)

/-- The one step that is not linear. -/
def chi (a : State) : State :=
  Vector.ofFn fun i =>
    let x := i.val % 5
    let y := i.val / 5
    lane a x y ^^^ (~~~ lane a (x + 1) y &&& lane a (x + 2) y)

def round (a : State) (constant : UInt64) : State :=
  let b := chi (rhoPi (theta a))
  b.set 0 (b[0] ^^^ constant)

def permute (a : State) : State := roundConstants.foldl round a

/-- Bytes taken up by one permutation. -/
def rate : Nat := 136

/-- The message and its end mark, up to a whole number of blocks. -/
def pad (message : Bytes) : Bytes :=
  let free := rate - message.length % rate
  if free = 1 then message ++ [0x81]
  else message ++ 0x01 :: List.replicate (free - 2) 0 ++ [0x80]

/-- A lane out of eight bytes, least significant first. -/
def laneOfBytes (bs : Bytes) : UInt64 := UInt64.ofNat (Bytes.toNat (bs.take 8).reverse)

/-- A block is added to the first lanes of the state. -/
def addBlock (a : State) (block : Bytes) : State :=
  let lanes := (List.range 17).map fun i => laneOfBytes (block.drop (8 * i))
  Vector.ofFn fun i => a[i] ^^^ lanes.getD i 0

/-- The state after the first `blocks` blocks of `message`. -/
def absorb : (blocks : Nat) → Bytes → State → State
  | 0, _, a => a
  | blocks + 1, message, a =>
    absorb blocks (message.drop rate) (permute (addBlock a (message.take rate)))

/-- The Keccak-256 hash. -/
def hash (message : Bytes) : Word :=
  let padded := pad message
  let a := absorb (padded.length / rate) padded (Vector.replicate 25 0)
  Octets.leading 32 ((a.toList.take 4).flatMap fun x => (Bytes.ofNat 8 x.toNat).reverse)

end Sandwich.Keccak
