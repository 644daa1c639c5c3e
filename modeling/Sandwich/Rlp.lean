import Sandwich.Bytes

/-! The length-prefixed binary form of strings and lists. A string of one byte
below `0x80` is its own form. Any other starts with a mark that holds the
length, or the number of bytes that the length takes up after the mark if the
length is above fifty-five. A value has one form only, and reading refuses
every other. -/

namespace Sandwich

/-- Why bytes are not in the binary form. -/
inductive RlpError
  | inputTooShort
  | nonCanonicalByte
  | nonCanonicalLength
  | leadingZero
  | overflow
  | unexpectedLength
  | unexpectedString
  | unexpectedList
  | listLength (expected got : Nat)
  | invalidBool
  | invalidParity
deriving DecidableEq

def RlpError.message : RlpError → String
  | inputTooShort => "input too short"
  | nonCanonicalByte => "non-canonical single byte"
  | nonCanonicalLength => "non-canonical size"
  | leadingZero => "leading zero"
  | overflow => "overflow"
  | unexpectedLength => "unexpected length"
  | unexpectedString => "unexpected string"
  | unexpectedList => "unexpected list"
  | listLength expected got =>
    "unexpected list length (got " ++ toString got ++ ", expected " ++ toString expected ++ ")"
  | invalidBool => "invalid bool value, must be 0 or 1"
  | invalidParity => "invalid parity value"

namespace Rlp

/-! ### Writing -/

/-- The mark of a payload of `length` bytes; `base` tells strings from lists. -/
def mark (base length : Nat) : Bytes :=
  if length ≤ 55 then [UInt8.ofNat (base + length)]
  else
    let size := Bytes.digits length
    UInt8.ofNat (base + 55 + size.length) :: size

/-- The form of a string. -/
def ofBytes (bs : Bytes) : Bytes :=
  match bs with
  | [b] => if b < 0x80 then [b] else mark 0x80 1 ++ [b]
  | bs => mark 0x80 bs.length ++ bs

/-- The form of a number: the string of its digits. -/
def ofNat (n : Nat) : Bytes := ofBytes (Bytes.digits n)

/-- The form of a list whose items are given in their form. -/
def ofItems (items : List Bytes) : Bytes :=
  let payload := items.flatten
  mark 0xc0 payload.length ++ payload

/-! ### Reading

A reader takes its value from the front of the bytes and gives back the rest. -/

abbrev Reader (α : Type) := Bytes → Except RlpError (α × Bytes)

/-- The number of the bytes, which are at most `width` and start with no zero. -/
def number (width : Nat) (bs : Bytes) : Except RlpError Nat :=
  if width < bs.length then .error .overflow
  else if bs.head? = some 0 then .error .leadingZero
  else .ok bs.toNat

/-- A mark: whether it is a list's, and the length of the payload. -/
structure Header where
  isList : Bool
  length : Nat

/-- The length after a mark that only says how many bytes it takes up. -/
def readLength (isList : Bool) (size : Nat) : Reader Header := fun bs => do
  if bs.length < size then throw .inputTooShort
  let length ← number 8 (bs.take size)
  if length < 56 then throw .nonCanonicalLength
  return (⟨isList, length⟩, bs.drop size)

/-- A mark and, if it is a string's, the one byte that is its own form left in place. -/
def readMark : Reader Header
  | [] => .error .inputTooShort
  | b :: bs =>
    if b < 0x80 then .ok (⟨false, 1⟩, b :: bs)
    else if b ≤ 0xb7 then
      let length := b.toNat - 0x80
      if length = 1 then
        match bs with
        | [] => .error .inputTooShort
        | c :: _ => if c < 0x80 then .error .nonCanonicalByte else .ok (⟨false, 1⟩, bs)
      else .ok (⟨false, length⟩, bs)
    else if b ≤ 0xbf then readLength false (b.toNat - 0xb7) bs
    else if b ≤ 0xf7 then .ok (⟨true, b.toNat - 0xc0⟩, bs)
    else readLength true (b.toNat - 0xf7) bs

/-- A mark whose payload is all there. -/
def readHeader : Reader Header := fun bs => do
  let (header, rest) ← readMark bs
  if rest.length < header.length then throw .inputTooShort
  return (header, rest)

/-- The payload of a string. -/
def readBytes : Reader Bytes := fun bs => do
  let (header, rest) ← readHeader bs
  if header.isList then throw .unexpectedList
  return (rest.take header.length, rest.drop header.length)

/-- The payload of a list. -/
def readPayload : Reader Bytes := fun bs => do
  let (header, rest) ← readHeader bs
  if !header.isList then throw .unexpectedString
  return (rest.take header.length, rest.drop header.length)

/-- A number of at most `width` bytes. -/
def readNat (width : Nat) : Reader Nat := fun bs => do
  let (digits, rest) ← readBytes bs
  return (← number width digits, rest)

/-- A string of exactly `n` bytes. -/
def readOctets (n : Nat) : Reader (Octets n) := fun bs => do
  let (string, rest) ← readBytes bs
  match Octets.ofBytes? n string with
  | some a => return (a, rest)
  | none => throw .unexpectedLength

/-- The items of a payload, of which there are at most `bound`. -/
def readItems {α : Type} (item : Reader α) : (bound : Nat) → Bytes → Except RlpError (List α)
  | 0, _ => .ok []
  | bound + 1, bs =>
    if bs.isEmpty then .ok []
    else do
      let (a, rest) ← item bs
      return a :: (← readItems item bound rest)

/-- A list of any number of items. -/
def readList {α : Type} (item : Reader α) : Reader (List α) := fun bs => do
  let (payload, rest) ← readPayload bs
  return (← readItems item payload.length payload, rest)

/-- A list whose items `fields` reads one after the other. What they take up has
to be the payload, neither less nor more. -/
def readRecord {α : Type} (fields : Reader α) : Reader α := fun bs => do
  let (header, rest) ← readHeader bs
  if !header.isList then throw .unexpectedString
  let (a, final) ← fields rest
  let got := rest.length - final.length
  if got ≠ header.length then throw (.listLength header.length got)
  return (a, final)

end Rlp

end Sandwich
