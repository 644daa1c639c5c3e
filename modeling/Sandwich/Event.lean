import Sandwich.Client
import Sandwich.Order
import Sandwich.Transaction.Basic

/-! What the program tells about its work as it goes on. -/

namespace Sandwich

/-- How much an event matters. -/
inductive Level
  | error
  | warn
  | info
  | debug
  | trace
deriving DecidableEq

namespace Level

def name : Level → String
  | error => "ERROR"
  | warn => "WARN"
  | info => "INFO"
  | debug => "DEBUG"
  | trace => "TRACE"

/-- The number of levels that matter at least as much. -/
def rank : Level → Nat
  | error => 1
  | warn => 2
  | info => 3
  | debug => 4
  | trace => 5

end Level

/-- An event in the course of the work. -/
inductive Event
  | connected (url : String) (chainId : UInt64) (sender : Address)
  | building (sender receiver : Address) (nonce : UInt64) (fees : Fees) (gasLimit : UInt64)
      (value : UInt256) (size : Nat)
  | signed (raw : Bytes)
  | submitted (hash : Word) (nonce : UInt64)
  | receiptPending (hash : Word)
  | pollFailed (hash : Word) (error : ClientError) (errors : Nat)
  | reverted (hash : Word) (gasUsed : UInt64)
  | confirmed (hash : Word) (gasUsed : UInt64)
  | wrapping (contract : Address) (amount : UInt256)
  | transferring (contract : Address) (amount : UInt256)
  | recovering (contract : Address) (amount : UInt256)
  | recovered (contract : Address) (amount : UInt256) (hash : Word)
  | frontrunning (contract : Address) (arguments : Frontrun)
  | destroying (contract : Address)
  | toppingUp (recipient : Address) (value : UInt256)
  | compilerFinished (source : String) (size : Nat)
  | compiled (source : String) (size : Nat)
  | foreignSalt (salt : Word) (owner deployer : Address)
  | deploying (factory : Address) (salt : Word) (predicted : Address) (size : Nat)
  | unexpectedAddress (address predicted : Address)
  | deployed (address : Address) (hash : Word) (gasUsed : UInt64)
  | deploymentConfirmed (address : Address)
deriving DecidableEq

namespace Event

def level : Event → Level
  | connected .. => .info
  | building .. => .debug
  | signed .. => .trace
  | submitted .. => .info
  | receiptPending .. => .trace
  | pollFailed .. => .warn
  | reverted .. => .warn
  | confirmed .. => .info
  | wrapping .. => .info
  | transferring .. => .info
  | recovering .. => .debug
  | recovered .. => .info
  | frontrunning .. => .debug
  | destroying .. => .info
  | toppingUp .. => .info
  | compilerFinished .. => .debug
  | compiled .. => .info
  | foreignSalt .. => .warn
  | deploying .. => .debug
  | unexpectedAddress .. => .warn
  | deployed .. => .info
  | deploymentConfirmed .. => .info

def message : Event → String
  | connected .. => "Connected"
  | building .. => "Building transaction"
  | signed .. => "Signed transaction"
  | submitted .. => "Transaction submitted"
  | receiptPending .. => "Receipt not available yet"
  | pollFailed .. => "Receipt poll failed, retrying"
  | reverted .. => "Transaction reverted"
  | confirmed .. => "Transaction confirmed"
  | wrapping .. => "Wrapping native balance"
  | transferring .. => "Transferring wrapped balance"
  | recovering .. => "Recovering wrapped balance"
  | recovered .. => "Recovered"
  | frontrunning .. => "Sending front-run"
  | destroying .. => "Destroying contract"
  | toppingUp .. => "Topping up"
  | compilerFinished .. => "Compiled bytecode"
  | compiled .. => "Compiled contract"
  | foreignSalt .. => "Salt is not prefixed by the deployer address, the factory may reject it"
  | deploying .. => "Deploying through factory"
  | unexpectedAddress .. => "Factory reported an unexpected address"
  | deployed .. => "Contract deployed"
  | deploymentConfirmed .. => "Deployment confirmed"

end Event

end Sandwich
