import Sandwich.Hash.Keccak
import Sandwich.Hex

/-! Addresses with a checksum in the case of their letters. -/

namespace Sandwich.Address

/-- The hexadecimal text in which a letter is a capital if the digit at its
place in the hash of the text is eight or more. -/
def checksummed (a : Address) : String :=
  let text := Hex.digits a.toBytes
  let marks := Hex.digits (Keccak.hash (Hex.utf8 text)).toBytes
  String.ofList ('0' :: 'x' :: (text.zip marks).map fun (c, mark) =>
    if '8' ≤ mark then c.toUpper else c)

end Sandwich.Address
