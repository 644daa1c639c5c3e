/-! Byte strings, the big-endian numbers that they denote, and strings of a
fixed length: addresses and words. -/

namespace Sandwich

/-- A string of bytes, first byte first. -/
abbrev Bytes := List UInt8

/-- An unsigned number of 128 bits. -/
abbrev UInt128 := BitVec 128

/-- An unsigned number of 256 bits. -/
abbrev UInt256 := BitVec 256

/-- The least number that takes more than `bits` bits. -/
def bitBound (bits : Nat) : Nat := Nat.pow 2 bits

theorem bitBound_pos (bits : Nat) : 0 < bitBound bits := Nat.pow_pos (Nat.zero_lt_succ 1)

namespace Bytes

/-- The number that `bs` denotes, most significant byte first. -/
def toNat (bs : Bytes) : Nat := bs.foldl (fun n b => 256 * n + b.toNat) 0

/-- The last `width` digits of `n` in base 256, most significant first. -/
def ofNat : (width n : Nat) → Bytes
  | 0, _ => []
  | width + 1, n => ofNat width (n / 256) ++ [UInt8.ofNat n]

/-- The digits that count: leading zeros say nothing about the number. -/
def significant (bs : Bytes) : Bytes := bs.dropWhile (· == 0)

/-- The shortest digits of a number below `256 ^ 32`; zero has none. -/
def digits (n : Nat) : Bytes := significant (ofNat 32 n)

/-- The first `n` bytes, with zeros after the end. -/
def leading (n : Nat) (bs : Bytes) : Bytes := (bs ++ List.replicate n 0).take n

@[simp] theorem length_ofNat (width n : Nat) : (ofNat width n).length = width := by
  induction width generalizing n with
  | zero => rfl
  | succ width ih => simp [ofNat, ih]

@[simp] theorem length_leading (n : Nat) (bs : Bytes) : (leading n bs).length = n := by
  simp [leading]

theorem leading_eq_self {n : Nat} {bs : Bytes} (h : bs.length = n) : leading n bs = bs := by
  subst h; simp [leading]

end Bytes

/-- A string of exactly `n` bytes. -/
structure Octets (n : Nat) where
  toBytes : Bytes
  length_toBytes : toBytes.length = n
deriving DecidableEq

/-- An account: the last twenty bytes of a hash. -/
abbrev Address := Octets 20

/-- A hash, a salt, or a slot of call data. -/
abbrev Word := Octets 32

namespace Octets

variable {n : Nat}

attribute [simp] length_toBytes

@[ext] theorem ext {a b : Octets n} (h : a.toBytes = b.toBytes) : a = b := by
  cases a; cases b; simp_all

/-- The bytes `bs`, if there are `n` of them. -/
def ofBytes? (n : Nat) (bs : Bytes) : Option (Octets n) :=
  if h : bs.length = n then some ⟨bs, h⟩ else none

/-- The first `n` bytes of `bs`, with zeros after its end. -/
def leading (n : Nat) (bs : Bytes) : Octets n := ⟨bs.leading n, Bytes.length_leading n bs⟩

/-- The last `n` digits of `k` in base 256. -/
def ofNat (n k : Nat) : Octets n := ⟨Bytes.ofNat n k, Bytes.length_ofNat n k⟩

/-- The number that the bytes denote. -/
def toNat (a : Octets n) : Nat := a.toBytes.toNat

/-- Bytes zero throughout. -/
def zero (n : Nat) : Octets n := ⟨List.replicate n 0, List.length_replicate⟩

/-- Strings of one length are ordered as the numbers that they denote. -/
instance : LT (Octets n) := ⟨fun a b => a.toNat < b.toNat⟩

instance (a b : Octets n) : Decidable (a < b) := inferInstanceAs (Decidable (a.toNat < b.toNat))

end Octets

/-- The address in the low twenty bytes of a word. -/
def Address.toWord (a : Address) : Word :=
  ⟨List.replicate 12 0 ++ a.toBytes, by simp⟩

/-- The low twenty bytes of a word. -/
def Word.toAddress (w : Word) : Address :=
  ⟨w.toBytes.drop 12, by simp⟩

/-- The thirty-two bytes of a number. -/
def Word.ofUInt256 (x : UInt256) : Word := Octets.ofNat 32 x.toNat

end Sandwich
