import Sandwich.Bytes
import Sandwich.Text.Quoted

/-! Hexadecimal text of byte strings, and the three ways in which such a text
can be wrong. -/

namespace Sandwich

/-- Why a text is not the hexadecimal form of bytes. -/
inductive HexError
  | oddLength
  /-- The bytes asked for are of another number. -/
  | wrongLength
  /-- The byte at `index`, counted after the mark `0x`, is no digit. -/
  | invalidDigit (byte : UInt8) (index : Nat)
deriving DecidableEq

namespace HexError

def message : HexError → String
  | oddLength => "odd number of digits"
  | wrongLength => "invalid string length"
  | invalidDigit byte index =>
    "invalid character " ++ Text.quoteChar (Char.ofNat byte.toNat) ++ " at position " ++
      toString index

/-- The error with its constructor and fields spelt out. -/
def inspect : HexError → String
  | oddLength => "OddLength"
  | wrongLength => "InvalidStringLength"
  | invalidDigit byte index =>
    "InvalidHexCharacter \x7b c: " ++ Text.quoteChar (Char.ofNat byte.toNat) ++ ", index: " ++
      toString index ++ " \x7d"

end HexError

namespace Hex

/-- The digit below sixteen, in lower case. -/
def digit (n : Nat) : Char :=
  if n < 10 then Char.ofNat (48 + n) else Char.ofNat (87 + n)

/-- The value of a digit of either case, given as its ASCII code. -/
def value? (b : UInt8) : Option UInt8 :=
  if 48 ≤ b && b ≤ 57 then some (b - 48)
  else if 97 ≤ b && b ≤ 102 then some (b - 87)
  else if 65 ≤ b && b ≤ 70 then some (b - 55)
  else none

/-- Two digits for each byte. -/
def digits (bs : Bytes) : List Char :=
  bs.flatMap fun b => [digit (b.toNat / 16), digit (b.toNat % 16)]

/-- The text of `bs`: the mark `0x` and two digits for each byte. -/
def encode (bs : Bytes) : String := String.ofList ('0' :: 'x' :: digits bs)

/-- A text without one leading `0x` or `0X`. -/
def unmarked : Bytes → Bytes
  | 48 :: 120 :: rest => rest
  | 48 :: 88 :: rest => rest
  | text => text

/-- The bytes of a text of digits, `index` being the place of its first byte. -/
def ofDigits : (index : Nat) → Bytes → Except HexError Bytes
  | _, [] => .ok []
  | index, [b] =>
    match value? b with
    | none => .error (.invalidDigit b index)
    | some _ => .error .oddLength
  | index, b :: c :: rest =>
    match value? b, value? c with
    | none, _ => .error (.invalidDigit b index)
    | some _, none => .error (.invalidDigit c (index + 1))
    | some hi, some lo => (ofDigits (index + 2) rest).map ((16 * hi + lo) :: ·)

/-- The UTF-8 form of a text. -/
def utf8 (cs : List Char) : Bytes := cs.flatMap String.utf8EncodeChar

/-- The bytes of a text of digits, the mark being optional. -/
def decode (cs : List Char) : Except HexError Bytes :=
  let text := utf8 cs
  if text.length % 2 = 1 then .error .oddLength else ofDigits 0 (unmarked text)

/-- As `decode`, for exactly `n` bytes. -/
def decodeOctets (n : Nat) (cs : List Char) : Except HexError (Octets n) :=
  let text := utf8 cs
  if text.length % 2 = 1 then .error .oddLength
  else if (unmarked text).length ≠ 2 * n then .error .wrongLength
  else (ofDigits 0 (unmarked text)).map (Octets.leading n)

end Hex

namespace Octets

/-- The hexadecimal text in lower case. -/
def toHex {n : Nat} (a : Octets n) : String := Hex.encode a.toBytes

end Octets

end Sandwich
