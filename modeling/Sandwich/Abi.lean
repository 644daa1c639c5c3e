import Sandwich.Bytes

/-! Calls to the wrapped asset and to the factory: four bytes that select the
function, then one word for each argument. The word of an argument of varying
length holds the place, counted from the first word, where its length and its
bytes are. Reading takes what it needs and ignores the rest. -/

namespace Sandwich.Abi

/-! ### Words -/

/-- The word of index `i`. -/
def word? (arguments : Bytes) (i : Nat) : Option Word :=
  Octets.ofBytes? 32 ((arguments.drop (32 * i)).take 32)

/-- The word of index `i` as a number. -/
def uint? (arguments : Bytes) (i : Nat) : Option UInt256 :=
  (word? arguments i).map fun w => BitVec.ofNat 256 w.toNat

/-- The address in the word of index `i`, whatever the bytes before it are. -/
def address? (arguments : Bytes) (i : Nat) : Option Address :=
  (word? arguments i).map Word.toAddress

/-- A place or a length: a number of at most eight bytes. -/
def size? (arguments : Bytes) (i : Nat) : Option Nat := do
  let n := (← word? arguments i).toNat
  if n < bitBound 64 then some n else none

/-- The bytes of the argument of varying length whose place is in the word of index `i`. -/
def bytes? (arguments : Bytes) (i : Nat) : Option Bytes := do
  let place ← size? arguments i
  if arguments.length < place then none
  let tail := arguments.drop place
  let length ← size? tail 0
  let rest := tail.drop 32
  if rest.length < length then none else some (rest.take length)

/-- Bytes behind their length, with zeros up to a whole number of words. -/
def tail (bs : Bytes) : Bytes :=
  Bytes.ofNat 32 bs.length ++ bs ++ List.replicate ((32 - bs.length % 32) % 32) 0

/-- The arguments of a call that `selector` selects. -/
def arguments? (selector input : Bytes) : Option Bytes :=
  if input.take 4 = selector then some (input.drop 4) else none

/-! ### The wrapped asset -/

/-- `deposit()` -/
def depositSelector : Bytes := [0xd0, 0xe3, 0x0d, 0xb0]

/-- `transfer(address,uint256)` -/
def transferSelector : Bytes := [0xa9, 0x05, 0x9c, 0xbb]

/-- `balanceOf(address)` -/
def balanceOfSelector : Bytes := [0x70, 0xa0, 0x82, 0x31]

/-- Wraps the value that comes with the call. -/
def deposit : Bytes := depositSelector

/-- Moves `amount` to `receiver`. -/
def transfer (receiver : Address) (amount : UInt256) : Bytes :=
  transferSelector ++ receiver.toWord.toBytes ++ (Word.ofUInt256 amount).toBytes

/-- Asks for the balance of `owner`. -/
def balanceOf (owner : Address) : Bytes := balanceOfSelector ++ owner.toWord.toBytes

def transfer? (input : Bytes) : Option (Address × UInt256) := do
  let arguments ← arguments? transferSelector input
  return (← address? arguments 0, ← uint? arguments 1)

def balanceOf? (input : Bytes) : Option Address := do
  address? (← arguments? balanceOfSelector input) 0

/-! ### The factory -/

/-- `deployMetamorphicContract(bytes32,bytes,bytes)` -/
def deploySelector : Bytes := [0x6f, 0x8b, 0xda, 0x37]

/-- The hash that marks the event `DeployedAt(address)`. -/
def deployedTopic : Word :=
  Octets.ofNat 32 0xc49cc1b310b899590126aabfe596daadad7a95570fcf8cec7ad4567795f168de

/-- Creates a contract at the address of `salt`. Its code is what `bytecode`
returns, and it is then called with `initData`. -/
def deploy (salt : Word) (bytecode initData : Bytes) : Bytes :=
  deploySelector ++ salt.toBytes ++ Bytes.ofNat 32 96 ++
    Bytes.ofNat 32 (96 + (tail bytecode).length) ++ tail bytecode ++ tail initData

def deploy? (input : Bytes) : Option (Word × Bytes × Bytes) := do
  let arguments ← arguments? deploySelector input
  return (← word? arguments 0, ← bytes? arguments 1, ← bytes? arguments 2)

end Sandwich.Abi
