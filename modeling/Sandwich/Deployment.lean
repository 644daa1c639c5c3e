import Sandwich.Abi
import Sandwich.Compiler
import Sandwich.Sequencer

/-! Deployment through a factory. The factory creates every contract with the
same small program, which fetches the code of the contract from elsewhere. So
the address depends on the factory and the salt alone, and a contract that has
destroyed itself can be replaced by another at the same address. -/

namespace Sandwich

/-- The public factory on the main network. -/
def mainnetFactory : Address := Octets.ofNat 20 0x00000000e82eb0431756271f0d00cfb143685e7b

/-- The program that the factory creates each contract with. -/
def metamorphicInitCode : Bytes :=
  Bytes.ofNat 29 0x5860208158601c335a63aaf10f428752fa158151803b80938091923cf3

/-- The address at which `factory` creates the contract of `salt`. -/
def metamorphicAddress (hash : Bytes → Word) (factory : Address) (salt : Word) : Address :=
  (hash (0xff :: factory.toBytes ++ salt.toBytes ++ (hash metamorphicInitCode).toBytes)).toAddress

/-- The address in the first argument of an event: its second topic if it has
one, else the first word of its data. -/
def Log.deployedAddress? (log : Log) : Option Address := do
  let word : Word ← match log.topics[1]? with
    | some topic => some topic
    | none => Octets.ofBytes? 32 (log.data.take 32)
  if word.toBytes.take 12 = List.replicate 12 0 then some (Word.toAddress word) else none

/-- A confirmed deployment. -/
structure Deployment where
  address : Address
  hash : Word
  gasUsed : UInt64
deriving DecidableEq

/-- Who deploys, through which factory, and what is paid for gas. -/
structure Deployer where
  sequencer : Sequencer
  factory : Address := mainnetFactory
  policy : FeePolicy := .standard
  gasLimit : UInt64 := 5000000
deriving DecidableEq

namespace Deployer

/-- The address that a salt starts with. -/
def saltOwner (salt : Word) : Address := Octets.leading 20 salt.toBytes

/-- Whether `salt` starts with an address other than the deployer's; the factory
takes only salts that start with the deployer's or with zeros. -/
def hasForeignSalt (d : Deployer) (salt : Word) : Bool :=
  saltOwner salt ≠ d.sequencer.sender && saltOwner salt ≠ Octets.zero 20

/-- A call to the factory that failed is a failed deployment. -/
def deploymentFailure : Failure → Failure
  | .reverted hash gasUsed => .deployment (.reverted gasUsed) hash
  | failure => failure

/-- The address that the first event of the factory reports. -/
def reportedAddress? (d : Deployer) (receipt : Receipt) : Option Address :=
  (receipt.logs.find? (·.address = d.factory)).bind Log.deployedAddress?

/-- Deploys `bytecode` at the address of `salt`; the new contract is called with `initData`. -/
def deploy (hash : Bytes → Word) (d : Deployer) (salt : Word) (bytecode initData : Bytes) :
    Operation Deployment := do
  if bytecode.isEmpty then throw .emptyBytecode
  if d.hasForeignSalt salt then
    Operation.report (.foreignSalt salt (saltOwner salt) d.sequencer.sender)
  let predicted := metamorphicAddress hash d.factory salt
  Operation.report (.deploying d.factory salt predicted bytecode.length)
  let receipt ← ExceptT.adapt deploymentFailure
    (d.sequencer.send d.factory (Abi.deploy salt bytecode initData) d.policy d.gasLimit)
  match d.reportedAddress? receipt with
  | none => throw (.deployment .noEvent receipt.hash)
  | some address =>
    if address ≠ predicted then Operation.report (.unexpectedAddress address predicted)
    Operation.report (.deployed address receipt.hash receipt.gasUsed)
    return { address, hash := receipt.hash, gasUsed := receipt.gasUsed }

/-- The bytecode of a source, once the compiler is known to be there. Nothing is asked for. -/
def compile {Action : Type} {Reply : Action → Type} (compiler : Compiler) (source : String) :
    ExceptT Failure (Program Reply) Bytes := do
  MonadExcept.ofExcept (compiler.available.mapError .compilerUnavailable)
  let (events, result) := compiler.compile source
  events.forM fun event => ExceptT.lift (Program.tell event)
  let bytecode ← MonadExcept.ofExcept result
  ExceptT.lift (Program.tell (.compiled source bytecode.length))
  return bytecode

/-- Compiles `source` and deploys the result. -/
def deploySource (hash : Bytes → Word) (d : Deployer) (compiler : Compiler) (source : String)
    (salt : Word) (initData : Bytes) : Operation Deployment := do
  let bytecode ← compile compiler source
  d.deploy hash salt bytecode initData

end Deployer

end Sandwich
