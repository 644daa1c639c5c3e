import Sandwich.Bytes

/-! Text out of bytes in UTF-8. -/

namespace Sandwich.Text

/-- For the first byte of a character: how many bytes follow, and the bounds of the next one. -/
def leadByte (b : UInt8) : Option (Nat × UInt8 × UInt8) :=
  if b < 0x80 then some (0, 0x80, 0xbf)
  else if 0xc2 ≤ b && b ≤ 0xdf then some (1, 0x80, 0xbf)
  else if b = 0xe0 then some (2, 0xa0, 0xbf)
  else if b = 0xed then some (2, 0x80, 0x9f)
  else if 0xe1 ≤ b && b ≤ 0xef then some (2, 0x80, 0xbf)
  else if b = 0xf0 then some (3, 0x90, 0xbf)
  else if 0xf1 ≤ b && b ≤ 0xf3 then some (3, 0x80, 0xbf)
  else if b = 0xf4 then some (3, 0x80, 0x8f)
  else none

/-- The bits that the first byte of a character of `extra + 1` bytes gives. -/
def leadBits (extra : Nat) (b : UInt8) : Nat :=
  match extra with
  | 0 => b.toNat
  | 1 => b.toNat % 32
  | 2 => b.toNat % 16
  | _ => b.toNat % 8

/-- The bytes that go on with a character, at most `extra`, the first within the bounds. -/
def continuation : (extra : Nat) → (low high : UInt8) → Bytes → Bytes
  | 0, _, _, _ => []
  | _ + 1, _, _, [] => []
  | extra + 1, low, high, b :: bs =>
    if low ≤ b && b ≤ high then b :: continuation extra 0x80 0xbf bs else []

/-- The characters in order. A character begun and not ended, or a byte that
begins none, is an empty place. -/
def scan (bs : Bytes) : List (Option Char) :=
  match bs with
  | [] => []
  | b :: bs =>
    match leadByte b with
    | none => none :: scan bs
    | some (extra, low, high) =>
      let more := continuation extra low high bs
      let c :=
        if more.length = extra then
          some (Char.ofNat (more.foldl (fun n b => 64 * n + b.toNat % 64) (leadBits extra b)))
        else none
      c :: scan (bs.drop more.length)
termination_by bs.length
decreasing_by all_goals simp; try omega

/-- The text, if the bytes are one. -/
def decodeUtf8? (bs : Bytes) : Option (List Char) := (scan bs).mapM id

/-- The text with a replacement character in each empty place. -/
def decodeUtf8Lossy (bs : Bytes) : List Char := (scan bs).map (·.getD '\ufffd')

end Sandwich.Text
