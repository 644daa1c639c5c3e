import Sandwich.Layout.Error

/-! Compact amounts: the four leading bytes of an amount and the place in a
swap call where they go. The call is a selector of four bytes and then words
of thirty-two; the word of parameter `i` spans `4 + 32 * i` to `36 + 32 * i`.
What the four bytes leave out at the end is lost, so that the amount passed on
is never above the amount meant. -/

namespace Sandwich

/-- Four bytes of an amount and the offset in the call at which they are put. -/
structure CompactAmount where
  offset : UInt8
  significant : UInt32
deriving DecidableEq

namespace CompactAmount

/-- The last parameter whose word can be addressed by one byte. -/
def maxParameter : UInt8 := 6

/-- How many bytes have to go from the end of `n` until four are left, and those four. -/
def truncate (n : Nat) : Nat × Nat :=
  if n < bitBound 32 then (0, n)
  else
    let (dropped, rest) := truncate (n / 256)
    (dropped + 1, rest)
termination_by n
decreasing_by
  have := bitBound_pos 32
  omega

/-- The compact form of `amount` for the parameter at `index`. -/
def encode (amount : UInt256) (index : UInt8) : Except PayloadError CompactAmount :=
  if maxParameter < index then .error (.paramIndexOutOfRange index)
  else
    let (dropped, rest) := truncate amount.toNat
    .ok ⟨32 + 32 * index - UInt8.ofNat dropped, UInt32.ofNat rest⟩

/-- Whether four bytes at `offset` lie within the word of one parameter. -/
def validOffset (offset : UInt8) : Bool :=
  4 ≤ offset && (offset - 4) % 32 ≤ 28 && (offset - 4) / 32 ≤ maxParameter

/-- Reads the offset byte and the four bytes after it. -/
def ofOctets (wire : Octets 5) : Except PayloadError CompactAmount :=
  let offset := wire.toBytes.headD 0
  if validOffset offset then .ok ⟨offset, UInt32.ofNat (Bytes.toNat wire.toBytes.tail)⟩
  else .error (.invalidCompactOffset offset)

/-- The offset byte and the four bytes. -/
def toBytes (c : CompactAmount) : Bytes := c.offset :: Bytes.ofNat 4 c.significant.toNat

/-- The parameter in whose word the bytes lie. -/
def index (c : CompactAmount) : UInt8 := (c.offset - 4) / 32

/-- How many bytes of the word follow the four. -/
def shift (c : CompactAmount) : UInt8 := 32 + 32 * c.index - c.offset

/-- The amount that the call passes on. -/
def amount (c : CompactAmount) : UInt256 :=
  BitVec.ofNat 256 c.significant.toNat <<< (8 * c.shift.toNat)

/-- One unit less in the four bytes, if there is one. -/
def decrement (c : CompactAmount) : CompactAmount :=
  ⟨c.offset, if c.significant = 0 then 0 else c.significant - 1⟩

def describe (c : CompactAmount) : String :=
  toString c.amount.toNat ++ " (param " ++ toString c.index ++ ", offset " ++
    toString c.offset ++ ")"

end CompactAmount

end Sandwich
