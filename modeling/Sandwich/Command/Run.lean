import Sandwich.Command.Job
import Sandwich.Swap

/-! What each command does, and the text in which it gives its result. -/

namespace Sandwich.Command

/-- The amount that a text stands for. -/
def amount (text : String) : Except CommandError UInt256 :=
  (Amount.parse text.toList).mapError (.input ∘ .amount)

/-! ### Payloads -/

/-- The key of the pool, whose tokens stand in the order of their addresses. -/
def SwapOptions.poolKey (hash : Bytes → Word) (s : SwapOptions) (fee : UInt32) : Word :=
  if s.token < s.wrapped then Sandwich.poolKey hash s.token s.wrapped fee
  else Sandwich.poolKey hash s.wrapped s.token fee

/-- The payload in its packed form. -/
def PayloadOptions.encode (hash : Bytes → Word) : PayloadOptions → Except CommandError Bytes
  | frontrun arguments opcode => (arguments.encode opcode).mapError .payload
  | recover text opcode => do
    let amount ← amount text
    (encodeRecover opcode amount).mapError .payload
  | destroy opcode => (encodeDestroy opcode).mapError .payload
  | v2Frontrun s amountOut => do
    let amountIn ← amount s.amountIn
    let amountOut ← amount amountOut
    (V2Frontrun.build s.pool s.wrapped s.token amountIn amountOut >>= V2Frontrun.encode).mapError
      .payload
  | v2Backrun s amountOut => do
    let amountIn ← amount s.amountIn
    let amountOut ← amount amountOut
    (V2Backrun.build s.pool s.wrapped s.token amountIn amountOut >>= V2Backrun.encode).mapError
      .payload
  | v3Frontrun s fee => do
    let amountIn ← amount s.amountIn
    (V3Frontrun.build s.pool (s.poolKey hash fee) s.wrapped s.token amountIn >>=
      V3Frontrun.encode).mapError .payload
  | v3Backrun s fee => do
    let amountIn ← amount s.amountIn
    (V3Backrun.build s.pool (s.poolKey hash fee) s.wrapped s.token amountIn >>=
      V3Backrun.encode).mapError .payload

/-- The payload of which the bytes are given in place or in a file. -/
def loadPayload (files : Files) (data file : Option String) : Except CommandError Payload := do
  match ← loadHex files data file with
  | none => throw (.input .emptyPayload)
  | some bytes =>
    if bytes.isEmpty then throw (.input .emptyPayload)
    else (Payload.decode bytes).mapError .payload

/-! ### Deployment -/

namespace DeployOptions

/-- The bytecode, loaded or compiled. Nothing is asked for. -/
def loadBytecode {Action : Type} {Reply : Action → Type} (o : DeployOptions) (env : Environment) :
    ExceptT CommandError (Program Reply) Bytes := do
  let loaded ← MonadExcept.ofExcept (loadHex env.files o.bytecode o.bytecodeFile)
  let bytecode ← match loaded, o.source with
    | some bytecode, _ => pure bytecode
    | none, some source =>
      ExceptT.adapt .operation (Deployer.compile (env.compiler o.compiler) source)
    | none, none => throw (.input .noBytecode)
  if bytecode.isEmpty then throw (.operation .emptyBytecode)
  return bytecode

/-- Deploys, once there is bytecode to be deployed. -/
def run (o : DeployOptions) (env : Environment) : Job Deployment := do
  let policy ← MonadExcept.ofExcept o.fees.policy
  let initData ← MonadExcept.ofExcept (loadHex env.files o.initData none)
  let bytecode ← o.loadBytecode env
  let session ← o.sender.connect env
  let usual : Deployer := { sequencer := session.sequencer }
  let deployer := { usual with
    factory := o.factory
    policy
    gasLimit := o.fees.gasLimitOr usual.gasLimit }
  let deployment ← session.perform
    (.ofOperation (deployer.deploy env.hash o.salt bytecode (initData.getD [])))
  ExceptT.lift (Program.tell (.deploymentConfirmed deployment.address))
  return deployment

end DeployOptions

/-! ### Operations on a deployed contract -/

namespace FlowOptions

/-- The operations with the fees and the wrapped asset of the options. -/
def flows (o : FlowOptions) (sequencer : Sequencer) : Except CommandError Flows := do
  let usual : Flows := { sequencer }
  return { usual with
    wrapped := o.wrapped
    policy := ← o.fees.policy
    gasLimit := o.fees.gasLimitOr usual.gasLimit }

/-- A session, once the options for fees are known to go together. -/
def connect (o : FlowOptions) (env : Environment) : Job Session := do
  MonadExcept.ofExcept o.fees.validate
  o.sender.connect env

/-- Has an operation performed. The amounts of the fees are looked at when it is due. -/
def perform {α : Type} (o : FlowOptions) (env : Environment) (operation : Flows → Operation α) :
    Job α := do
  let session ← o.connect env
  session.perform do
    let flows ← MonadExcept.ofExcept (o.flows session.sequencer)
    .ofOperation (operation flows)

/-- Sends the contract a front-run. One with an opcode of its own goes out without further ado. -/
def frontrun (o : FlowOptions) (sequencer : Sequencer) (contract : Address)
    (arguments : Frontrun) (opcode : UInt8) : Task Receipt := do
  if opcode = Opcode.frontrun then
    let flows ← MonadExcept.ofExcept (o.flows sequencer)
    .ofOperation (flows.frontrun contract arguments)
  else
    let payload ← MonadExcept.ofExcept ((arguments.encode opcode).mapError .payload)
    let flows ← MonadExcept.ofExcept (o.flows sequencer)
    .ofOperation (flows.send contract payload)

end FlowOptions

/-- Carries out a command. The result is its text. -/
def run (env : Environment) : Command → Job String
  | .deploy o => do
    let d ← o.run env
    return "Deployed at: " ++ d.address.checksummed ++ "\nTransaction: " ++ d.hash.toHex ++
      "\nGas used:    " ++ toString d.gasUsed ++ "\n"
  | .predict salt factory =>
    return (metamorphicAddress env.hash factory salt).checksummed ++ "\n"
  | .encode payload => do
    let bytes ← MonadExcept.ofExcept (payload.encode env.hash)
    return Hex.encode bytes ++ "\n"
  | .decode data file => do
    let payload ← MonadExcept.ofExcept (loadPayload env.files data file)
    return payload.describe ++ "\n"
  | .frontrun contract arguments opcode flow => do
    let session ← flow.connect env
    let receipt ← session.perform (flow.frontrun session.sequencer contract arguments opcode)
    return "Front-run sent: " ++ receipt.hash.toHex ++ " (gas used " ++
      toString receipt.gasUsed ++ ")\n"
  | .fund contract text flow => do
    let amount ← MonadExcept.ofExcept (amount text)
    let funding ← flow.perform env (·.fund contract amount)
    return "Wrapped:     " ++ funding.wrap.hash.toHex ++ "\nTransferred: " ++
      funding.transfer.hash.toHex ++ "\n"
  | .recover contract flow => do
    let recovery ← flow.perform env (·.recover contract)
    return "Recovered " ++ toString recovery.amount.toNat ++ " wei in " ++
      recovery.receipt.hash.toHex ++ "\n"
  | .destroy contract flow => do
    let receipt ← flow.perform env (·.destroy contract)
    return "Destroyed in " ++ receipt.hash.toHex ++ "\n"
  | .topUp recipient text flow => do
    let value ← MonadExcept.ofExcept (amount text)
    let receipt ← flow.perform env (·.topUp recipient value)
    return "Sent " ++ toString value.toNat ++ " wei to " ++ recipient.checksummed ++ " in " ++
      receipt.hash.toHex ++ "\n"

end Sandwich.Command
