import Sandwich.Checksum
import Sandwich.Command.Inspect
import Sandwich.Event

/-! How an event is told: its level, where it comes from, what happened, and
with which values. A value is written as it is, so that one with line ends in
it takes up several lines of the log. -/

namespace Sandwich

open Inspect

def Fees.inspect : Fees → String
  | legacy gasPrice => record "Legacy" [("gas_price", toString gasPrice.toNat)]
  | dynamic tip cap =>
    record "Eip1559"
      [("max_priority_fee_per_gas", toString tip.toNat), ("max_fee_per_gas", toString cap.toNat)]

def Frontrun.inspect (f : Frontrun) : String :=
  record "Frontrun" [("target", f.target.toHex), ("sub_op", toString f.subOp),
    ("param1", toString f.param1), ("sub_op2", toString f.subOp2), ("param2", toString f.param2)]

namespace Event

/-- The values that come with an event, by their names. -/
def fields : Event → List (String × String)
  | connected url chainId sender =>
    [("rpc", url), ("chain_id", toString chainId), ("sender", sender.checksummed)]
  | building sender receiver nonce fees gasLimit value size =>
    [("sender", sender.checksummed), ("destination", receiver.checksummed),
      ("nonce", toString nonce), ("fees", fees.inspect), ("gas_limit", toString gasLimit),
      ("value", toString value.toNat), ("calldata_len", toString size)]
  | signed raw => [("raw", Hex.encode raw)]
  | submitted hash nonce => [("tx_hash", hash.toHex), ("nonce", toString nonce)]
  | receiptPending hash => [("tx_hash", hash.toHex)]
  | pollFailed hash error errors =>
    [("tx_hash", hash.toHex), ("err", error.message), ("errors", toString errors)]
  | reverted hash gasUsed | confirmed hash gasUsed =>
    [("tx_hash", hash.toHex), ("gas_used", toString gasUsed)]
  | wrapping contract amount | transferring contract amount | recovering contract amount =>
    [("contract", contract.checksummed), ("amount", toString amount.toNat)]
  | recovered contract amount hash =>
    [("contract", contract.checksummed), ("amount", toString amount.toNat),
      ("tx_hash", hash.toHex)]
  | frontrunning contract arguments =>
    [("contract", contract.checksummed), ("frontrun", arguments.inspect)]
  | destroying contract => [("contract", contract.checksummed)]
  | toppingUp recipient value =>
    [("recipient", recipient.checksummed), ("value", toString value.toNat)]
  | compilerFinished source size => [("source", source), ("len", toString size)]
  | compiled source size => [("source", source), ("size", toString size)]
  | foreignSalt salt owner deployer =>
    [("salt", salt.toHex), ("salt_owner", owner.checksummed), ("deployer", deployer.checksummed)]
  | deploying factory salt predicted size =>
    [("factory", factory.checksummed), ("salt", salt.toHex), ("predicted", predicted.checksummed),
      ("bytecode_len", toString size)]
  | unexpectedAddress address predicted =>
    [("address", address.checksummed), ("predicted", predicted.checksummed)]
  | deployed address hash gasUsed =>
    [("address", address.checksummed), ("tx_hash", hash.toHex), ("gas_used", toString gasUsed)]
  | deploymentConfirmed address => [("address", address.checksummed)]

/-- The text of an event, with its origin if that is shown. Levels are set to the right. -/
def line (origin : Option String) (e : Event) : String :=
  (if e.level.name.length < 5 then " " else "") ++ e.level.name ++ " " ++
    (match origin with
      | some origin => origin ++ ": "
      | none => "") ++
    " ".intercalate (e.message :: e.fields.map fun (name, value) => name ++ "=" ++ value) ++ "\n"

end Event

end Sandwich
