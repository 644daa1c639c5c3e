import Sandwich.Fees

/-! Transactions one at a time: the nonce is read, the fees are settled, the
transaction is signed and sent, and its receipt is waited for. Nothing is kept
from one transaction to the next, and nothing is sent a second time. -/

namespace Sandwich

/-- Who sends, and the chain that is signed for. -/
structure Sequencer where
  sender : Address
  chainId : UInt64
deriving DecidableEq

namespace Sequencer

/-- Sends `input` and `value` to `receiver` and waits until the transaction is confirmed. -/
def sendValue (s : Sequencer) (receiver : Address) (input : Bytes) (value : UInt256)
    (policy : FeePolicy) (gasLimit : UInt64) : Operation Receipt := do
  let nonce ← Operation.read .nonce (.transactionCount s.sender)
  let fees ← policy.resolve
  Operation.report (.building s.sender receiver nonce fees gasLimit value input.length)
  let raw ← Operation.sign (.ofTransaction {
    chainId := some s.chainId
    nonce
    gasLimit
    receiver := some receiver
    value
    input
    kind := fees.kind })
  Operation.report (.signed raw)
  let hash ← Operation.query (.sendRaw raw) (.submissionRejected nonce)
  Operation.report (.submitted hash nonce)
  let receipt ← Operation.query (.awaitReceipt hash) (.receiptUnavailable hash nonce)
  if receipt.success then
    Operation.report (.confirmed hash receipt.gasUsed)
    return receipt
  else
    Operation.report (.reverted hash receipt.gasUsed)
    throw (.reverted hash receipt.gasUsed)

/-- As `sendValue`, with no value. -/
def send (s : Sequencer) (receiver : Address) (input : Bytes) (policy : FeePolicy)
    (gasLimit : UInt64) : Operation Receipt :=
  s.sendValue receiver input 0 policy gasLimit

end Sequencer

end Sandwich
