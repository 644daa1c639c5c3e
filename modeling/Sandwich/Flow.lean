import Sandwich.Abi
import Sandwich.Order
import Sandwich.Sequencer

/-! The operations on a deployed contract: funding it, taking its balance back,
running it, destroying it, and sending ether to an account. -/

namespace Sandwich

/-- Wrapped ether on the main network. -/
def mainnetWrapped : Address := Octets.ofNat 20 0xc02aaa39b223fe8d0a0e5c4f27ead9083c756cc2

/-- The gas limit of a transfer of ether and nothing else. -/
def transferGasLimit : UInt64 := 21000

/-- Who sends, which asset is wrapped ether, and what is paid for gas. -/
structure Flows where
  sequencer : Sequencer
  wrapped : Address := mainnetWrapped
  policy : FeePolicy := .standard
  gasLimit : UInt64 := 250000
deriving DecidableEq

/-- The receipts of a contract's funding. -/
structure Funding where
  wrap : Receipt
  transfer : Receipt
deriving DecidableEq

/-- The balance that a contract gave back, and the receipt. -/
structure Recovery where
  amount : UInt256
  receipt : Receipt
deriving DecidableEq

namespace Flows

/-- The wrapped balance of `holder`. -/
def wrappedBalance (f : Flows) (holder : Address) : Operation UInt256 := do
  let data ← Operation.read .wrappedBalance (.call f.wrapped (Abi.balanceOf holder))
  match Abi.uint? data 0 with
  | some balance => return balance
  | none => throw (.unexpectedBalance data)

/-- Sends a call to `receiver`. -/
def send (f : Flows) (receiver : Address) (input : Bytes) : Operation Receipt :=
  f.sequencer.send receiver input f.policy f.gasLimit

/-- Wraps `amount` and, once this is confirmed, moves it to the contract. -/
def fund (f : Flows) (contract : Address) (amount : UInt256) : Operation Funding := do
  Operation.report (.wrapping contract amount)
  let wrap ← f.sequencer.sendValue f.wrapped Abi.deposit amount f.policy f.gasLimit
  Operation.report (.transferring contract amount)
  let transfer ← f.send f.wrapped (Abi.transfer contract amount)
  return { wrap, transfer }

/-- Has the contract give back its whole wrapped balance. Nothing is sent if there is none. -/
def recover (f : Flows) (contract : Address) : Operation Recovery := do
  let amount ← f.wrappedBalance contract
  if amount = 0 then throw (.nothingToRecover contract)
  Operation.report (.recovering contract amount)
  let payload ← Operation.ofExcept .encoding (encodeRecover Opcode.recover amount)
  let receipt ← f.send contract payload
  Operation.report (.recovered contract amount receipt.hash)
  return { amount, receipt }

/-- Sends the contract a front-run. -/
def frontrun (f : Flows) (contract : Address) (arguments : Frontrun) : Operation Receipt := do
  let payload ← Operation.ofExcept .encoding (arguments.encode Opcode.frontrun)
  Operation.report (.frontrunning contract arguments)
  f.send contract payload

/-- Has the contract destroy itself. -/
def destroy (f : Flows) (contract : Address) : Operation Receipt := do
  let payload ← Operation.ofExcept .encoding (encodeDestroy Opcode.destroy)
  Operation.report (.destroying contract)
  f.send contract payload

/-- Sends ether to an account. -/
def topUp (f : Flows) (recipient : Address) (value : UInt256) : Operation Receipt := do
  Operation.report (.toppingUp recipient value)
  f.sequencer.sendValue recipient [] value f.policy transferGasLimit

end Flows

end Sandwich
