import Sandwich.Command.Fees
import Sandwich.Deployment
import Sandwich.Flow

/-! Commands: what the operator can ask for, with all that it takes. Amounts and
byte strings are still text, for they are looked at when the command runs. -/

namespace Sandwich

namespace Command

/-- How the node is reached, and how patiently a receipt is waited for. -/
structure Connection where
  url : String := "http://localhost:8545"
  /-- The time between two polls, in milliseconds. -/
  pollInterval : UInt64 := 1000
  maxPollErrors : UInt32 := 5
deriving DecidableEq

/-- Who sends, and over which node. -/
structure SenderOptions where
  connection : Connection
  key : String
  /-- The chain that is signed for; the node is asked if it is not given. -/
  chainId : Option UInt64
deriving DecidableEq

/-- What every command to a deployed contract takes. -/
structure FlowOptions where
  wrapped : Address := mainnetWrapped
  sender : SenderOptions
  fees : FeeOptions
deriving DecidableEq

/-- A swap in a pool with the wrapped asset. -/
structure SwapOptions where
  pool : Address
  token : Address
  amountIn : String
  wrapped : Address := mainnetWrapped
deriving DecidableEq

/-- A payload to be packed. -/
inductive PayloadOptions
  | frontrun (arguments : Frontrun) (opcode : UInt8)
  | recover (amount : String) (opcode : UInt8)
  | destroy (opcode : UInt8)
  | v2Frontrun (swap : SwapOptions) (amountOut : String)
  | v2Backrun (swap : SwapOptions) (amountOut : String)
  | v3Frontrun (swap : SwapOptions) (fee : UInt32)
  | v3Backrun (swap : SwapOptions) (fee : UInt32)

/-- A deployment: where the bytecode comes from, and where it goes. -/
structure DeployOptions where
  /-- The path of a source to be compiled. -/
  source : Option String := none
  bytecode : Option String := none
  /-- The file that holds the bytecode. -/
  bytecodeFile : Option String := none
  salt : Word
  factory : Address := mainnetFactory
  initData : Option String := none
  /-- The path of the compiler. -/
  compiler : String := "huffc"
  sender : SenderOptions
  fees : FeeOptions
deriving DecidableEq

end Command

/-- What the operator asks for. -/
inductive Command
  | deploy (options : Command.DeployOptions)
  /-- The address of a deployment. -/
  | predict (salt : Word) (factory : Address)
  | encode (payload : Command.PayloadOptions)
  /-- The fields of a payload, given in place or in a file. -/
  | decode (data file : Option String)
  | frontrun (contract : Address) (arguments : Frontrun) (opcode : UInt8)
      (flow : Command.FlowOptions)
  | fund (contract : Address) (amount : String) (flow : Command.FlowOptions)
  | recover (contract : Address) (flow : Command.FlowOptions)
  | destroy (contract : Address) (flow : Command.FlowOptions)
  | topUp (recipient : Address) (amount : String) (flow : Command.FlowOptions)

/-- A command, and how much is told about it on the way. -/
structure Invocation where
  verbosity : Nat := 0
  logFile : Option String := none
  command : Command

end Sandwich
