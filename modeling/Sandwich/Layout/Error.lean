import Sandwich.Bytes

/-! The kinds of field that a payload is made of, and why a payload cannot be
packed or unpacked. -/

namespace Sandwich

/-- What a field of a payload holds. -/
inductive FieldKind
  | uint8
  | uint32
  | uint256
  | address
  | bytes32
  /-- One byte for the place of an amount and four for its leading digits. -/
  | compact
deriving DecidableEq

namespace FieldKind

/-- The number of bytes that a field takes up. -/
def width : FieldKind → Nat
  | uint8 => 1
  | uint32 => 4
  | uint256 => 32
  | address => 20
  | bytes32 => 32
  | compact => 5

def name : FieldKind → String
  | uint8 => "uint8"
  | uint32 => "uint32"
  | uint256 => "uint256"
  | address => "address"
  | bytes32 => "bytes32"
  | compact => "compact amount"

end FieldKind

/-- Why a payload cannot be packed or unpacked. -/
inductive PayloadError
  /-- The number takes more than the `width` bytes of the field. -/
  | valueOutOfRange (field : String) (width : Nat)
  | invalidAddress (field : String) (length : Nat)
  | typeMismatch (field : String) (expected : FieldKind) (got : String)
  | arityMismatch (layout : String) (expected got : Nat)
  | lengthMismatch (layout : String) (expected got : Nat)
  /-- The place of the parameter does not fit into one byte. -/
  | paramIndexOutOfRange (index : UInt8)
  /-- No parameter has a byte at the offset where an amount could start. -/
  | invalidCompactOffset (offset : UInt8)
  | unknownOpcode (opcode : UInt8)
deriving DecidableEq

namespace PayloadError

def message : PayloadError → String
  | valueOutOfRange field width =>
    "field `" ++ field ++ "` does not fit in " ++ toString width ++ " byte(s)"
  | invalidAddress field length =>
    "field `" ++ field ++ "` must be a 20-byte address, got " ++ toString length ++ " byte(s)"
  | typeMismatch field expected got =>
    "field `" ++ field ++ "` expects " ++ expected.name ++ ", got " ++ got
  | arityMismatch layout expected got =>
    "layout `" ++ layout ++ "` takes " ++ toString expected ++ " field(s), got " ++ toString got
  | lengthMismatch layout expected got =>
    "layout `" ++ layout ++ "` is " ++ toString expected ++ " byte(s) long, got " ++ toString got
  | paramIndexOutOfRange index =>
    "parameter index " ++ toString index ++ " is out of range for a compact amount"
  | invalidCompactOffset offset => "invalid compact amount offset " ++ toString offset
  | unknownOpcode opcode => "unknown opcode " ++ toString opcode

end PayloadError

end Sandwich
