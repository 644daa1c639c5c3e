import Sandwich.Checksum
import Sandwich.Compact

/-! One field of a payload: the values it takes, the bytes it is written as,
and what is read back out of them. -/

namespace Sandwich

/-- A value on its way into a field. Numbers and addresses are byte strings of
any length, so that one that does not fit is refused and not cut. -/
inductive Value
  /-- A number, most significant byte first. -/
  | uint (digits : Bytes)
  | address (bytes : Bytes)
  | word (w : Word)
  | compact (c : CompactAmount)
deriving DecidableEq

namespace Value

/-- What the value is called when a field of another kind gets it. -/
def kindName : Value → String
  | uint _ => "an unsigned integer"
  | address _ => "an address"
  | word _ => "a 32-byte word"
  | compact _ => "a compact amount"

def ofUInt8 (x : UInt8) : Value := uint [x]

def ofUInt32 (x : UInt32) : Value := uint (Bytes.ofNat 4 x.toNat)

def ofUInt64 (x : UInt64) : Value := uint (Bytes.ofNat 8 x.toNat)

def ofUInt256 (x : UInt256) : Value := uint (Bytes.ofNat 32 x.toNat)

def ofAddress (a : Address) : Value := address a.toBytes

end Value

/-- What a field is read back as. -/
inductive Content
  | uint (x : UInt256)
  | address (a : Address)
  | word (w : Word)
  | compact (c : CompactAmount)
deriving DecidableEq

namespace Content

def describe : Content → String
  | uint x => toString x.toNat
  | address a => a.checksummed
  | word w => w.toHex
  | compact c => c.describe

/-- The value that is written as this content. -/
def toValue : Content → Value
  | uint x => .ofUInt256 x
  | address a => .ofAddress a
  | word w => .word w
  | compact c => .compact c

end Content

/-- A field of a layout. -/
structure Field where
  name : String
  kind : FieldKind
deriving DecidableEq

namespace Field

/-- A number in the last bytes of a field of `width` bytes. -/
def writeUint (f : Field) (digits : Bytes) : Except PayloadError Bytes :=
  let digits := Bytes.significant digits
  if f.kind.width < digits.length then .error (.valueOutOfRange f.name f.kind.width)
  else .ok (List.replicate (f.kind.width - digits.length) 0 ++ digits)

def writeAddress (f : Field) (bytes : Bytes) : Except PayloadError Bytes :=
  if bytes.length = FieldKind.address.width then .ok bytes
  else .error (.invalidAddress f.name bytes.length)

/-- The bytes of the field that hold `v`. -/
def write (f : Field) (v : Value) : Except PayloadError Bytes :=
  match f.kind, v with
  | .address, .address bytes => f.writeAddress bytes
  | .uint8, .uint digits => f.writeUint digits
  | .uint32, .uint digits => f.writeUint digits
  | .uint256, .uint digits => f.writeUint digits
  | .bytes32, .word w => .ok w.toBytes
  | .compact, .compact c => .ok c.toBytes
  | expected, got => .error (.typeMismatch f.name expected got.kindName)

/-- What the bytes of the field hold. -/
def read (f : Field) (chunk : Bytes) : Except PayloadError Content :=
  match f.kind with
  | .address => .ok (.address (.leading 20 chunk))
  | .uint8 => .ok (.uint (BitVec.ofNat 256 (Bytes.toNat chunk)))
  | .uint32 => .ok (.uint (BitVec.ofNat 256 (Bytes.toNat chunk)))
  | .uint256 => .ok (.uint (BitVec.ofNat 256 (Bytes.toNat chunk)))
  | .bytes32 => .ok (.word (.leading 32 chunk))
  | .compact => (CompactAmount.ofOctets (.leading 5 chunk)).map .compact

end Field

end Sandwich
