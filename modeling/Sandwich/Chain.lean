import Sandwich.Deployment
import Sandwich.Flow
import Sandwich.Signer
import Sandwich.Table

/-! A chain in memory. A raw transaction is decoded, checked against the
sender's nonce and the chain, and carried out at once. The chain knows a
factory, a wrapped asset, and contracts that obey payloads. -/

namespace Sandwich

/-- How hashes are taken and signed transactions read. -/
structure Scheme where
  digest : Bytes → Word
  decode : Bytes → Except TransactionError SignedTransaction
  sender? : SignedTransaction → Option Address
  hash : SignedTransaction → Word

/-- The scheme in use. -/
def Scheme.standard : Scheme where
  digest := Keccak.hash
  decode := SignedTransaction.decode
  sender? := SignedTransaction.sender?
  hash := SignedTransaction.hash

/-- The address that the factory reports. -/
inductive FactoryReport
  | truthful
  | nothing
  | address (a : Address)
deriving DecidableEq

namespace Chain

/-- What stays the same on a chain. -/
structure Settings where
  chainId : UInt64 := 1
  factory : Address := mainnetFactory
  wrapped : Address := mainnetWrapped
  gasPrice : UInt128 := 20000000000
  priorityFee : UInt128 := 1000000000
  factoryReport : FactoryReport := .truthful

/-- What transactions change, and the faults that are due. -/
structure State where
  nonces : Table Address UInt64 := .empty
  balances : Table Address UInt256 := .empty
  wrapped : Table Address UInt256 := .empty
  code : Table Address Bytes := .empty
  receipts : Table Word Receipt := .empty
  /-- The transactions taken, in order. -/
  submitted : List SignedTransaction := []
  /-- The next transaction is refused for this reason. -/
  rejectNext : Option String := none
  /-- The next receipt is lost for this reason. -/
  loseNextReceipt : Option String := none
  /-- Transactions to these addresses fail. -/
  reverting : List Address := []

/-- Why a transaction is not taken. -/
inductive Refusal
  | undecodable (e : TransactionError)
  | unsigned
  | scripted (reason : String)
  | wrongChain
  | nonceMismatch (expected got : UInt64)
deriving DecidableEq

def Refusal.message : Refusal → String
  | undecodable e => "invalid transaction: " ++ e.message
  | unsigned => "invalid signature: Failed to recover the signer"
  | scripted reason => reason
  | wrongChain => "invalid chain id"
  | nonceMismatch expected got =>
    "nonce mismatch: expected " ++ toString expected ++ ", got " ++ toString got

/-! ### Carrying out a transaction -/

/-- Moves `amount` between two balances; nothing if the first is too small. -/
def transfer (balances : Table Address UInt256) (source target : Address) (amount : UInt256) :
    Option (Table Address UInt256) :=
  let available := balances.getD source 0
  if available.toNat < amount.toNat then none
  else
    let balances := balances.set source (available - amount)
    some (balances.set target (balances.getD target 0 + amount))

/-- What a transaction did. -/
structure Execution where
  success : Bool
  logs : List Log
  state : State

/-- A transaction that ends with `success` and emits nothing. -/
def Execution.silent (success : Bool) (state : State) : Execution := ⟨success, [], state⟩

/-- The event with which the factory reports an address. -/
def deployedLog (c : Settings) (address : Address) : Log :=
  ⟨c.factory, [Abi.deployedTopic], address.toWord.toBytes⟩

/-- A call to the factory. -/
def callFactory (scheme : Scheme) (c : Settings) (input : Bytes) (s : State) : Execution :=
  match Abi.deploy? input with
  | none => .silent false s
  | some (salt, bytecode, _) =>
    let address := metamorphicAddress scheme.digest c.factory salt
    let logs := match c.factoryReport with
      | .truthful => [deployedLog c address]
      | .nothing => []
      | .address reported => [deployedLog c reported]
    ⟨true, logs, { s with code := s.code.set address bytecode }⟩

/-- A call of the wrapped asset by `sender`. -/
def callWrapped (sender : Address) (value : UInt256) (input : Bytes) (s : State) : Execution :=
  if (Abi.arguments? Abi.depositSelector input).isSome then
    .silent true { s with wrapped := s.wrapped.set sender (s.wrapped.getD sender 0 + value) }
  else
    match Abi.transfer? input with
    | none => .silent false s
    | some (receiver, amount) =>
      match transfer s.wrapped sender receiver amount with
      | none => .silent false s
      | some wrapped => .silent true { s with wrapped }

/-- The amount that a payload to recover asks for. -/
def recoveredAmount? (input : Bytes) : Option UInt256 :=
  match Payload.decode input with
  | .ok payload =>
    match payload.get? "amount" with
    | some (.uint amount) => some amount
    | _ => none
  | .error _ => none

/-- A call by `sender` of the contract at `receiver`, which obeys payloads. -/
def callContract (sender receiver : Address) (input : Bytes) (s : State) : Execution :=
  match input with
  | [] => .silent true s
  | opcode :: _ =>
    if opcode = Opcode.recover then
      match (recoveredAmount? input).bind (transfer s.wrapped receiver sender) with
      | none => .silent false s
      | some wrapped => .silent true { s with wrapped }
    else if opcode = Opcode.destroy then .silent true { s with code := s.code.erase receiver }
    else
      match Payload.decode input with
      | .ok _ => .silent true s
      | .error _ => .silent false s

/-- A call with a value. The value has moved even if the call then fails. -/
def execute (scheme : Scheme) (c : Settings) (sender receiver : Address) (value : UInt256)
    (input : Bytes) (s : State) : Execution :=
  if receiver ∈ s.reverting then .silent false s
  else
    match transfer s.balances sender receiver value with
    | none => .silent false s
    | some balances =>
      let s := { s with balances }
      if receiver = c.factory then callFactory scheme c input s
      else if receiver = c.wrapped then callWrapped sender value input s
      else callContract sender receiver input s

/-! ### Taking a transaction -/

/-- The gas that a transaction with this input uses. -/
def gasUsed (input : Bytes) : UInt64 := 21000 + 16 * UInt64.ofNat input.length

/-- Carries out a transaction of `sender`, whose turn it is. -/
def mine (scheme : Scheme) (c : Settings) (sender : Address) (signed : SignedTransaction)
    (s : State) : Word × State :=
  let t := signed.transaction
  let hash := scheme.hash signed
  let s := { s with nonces := s.nonces.set sender (t.nonce + 1) }
  let e := execute scheme c sender (t.receiver.getD (Octets.zero 20)) t.value t.input s
  let receipt : Receipt := ⟨hash, e.success, gasUsed t.input, e.logs⟩
  (hash, { e.state with
    receipts := e.state.receipts.set hash receipt
    submitted := e.state.submitted ++ [signed] })

/-- Takes a raw transaction or refuses it. -/
def submit (scheme : Scheme) (c : Settings) (raw : Bytes) (s : State) :
    Except Refusal Word × State :=
  match scheme.decode raw with
  | .error e => (.error (.undecodable e), s)
  | .ok signed =>
    match scheme.sender? signed with
    | none => (.error .unsigned, s)
    | some sender =>
      match s.rejectNext with
      | some reason => (.error (.scripted reason), { s with rejectNext := none })
      | none =>
        let t := signed.transaction
        let expected := s.nonces.getD sender 0
        if t.chainId ≠ some c.chainId then (.error .wrongChain, s)
        else if t.nonce ≠ expected then (.error (.nonceMismatch expected t.nonce), s)
        else
          let (hash, s) := mine scheme c sender signed s
          (.ok hash, s)

/-! ### Answering -/

/-- The receipt of a transaction, unless it is lost. -/
def awaitReceipt (hash : Word) (s : State) : Except ClientError Receipt × State :=
  match s.loseNextReceipt with
  | some reason => (.error (.other reason), { s with loseNextReceipt := none })
  | none =>
    match s.receipts.get? hash with
    | some receipt => (.ok receipt, s)
    | none => (.error (.other ("unknown transaction " ++ hash.toHex)), s)

/-- What a call that changes nothing returns. Only the wrapped asset answers. -/
def view (c : Settings) (receiver : Address) (input : Bytes) (s : State) : Bytes :=
  if receiver = c.wrapped then
    match Abi.balanceOf? input with
    | some owner => (Word.ofUInt256 (s.wrapped.getD owner 0)).toBytes
    | none => []
  else []

/-- The answer of the chain to a question. -/
def answer (scheme : Scheme) (c : Settings) (q : Query) (s : State) :
    Except ClientError q.Answer × State :=
  match q with
  | .balance account => (.ok (s.balances.getD account 0), s)
  | .transactionCount account => (.ok (s.nonces.getD account 0), s)
  | .gasPrice => (.ok c.gasPrice, s)
  | .maxPriorityFee => (.ok c.priorityFee, s)
  | .chainId => (.ok c.chainId, s)
  | .call receiver input => (.ok (view c receiver input s), s)
  | .sendRaw raw =>
    let (result, s) := submit scheme c raw s
    (result.mapError fun refusal => .other refusal.message, s)
  | .awaitReceipt hash => awaitReceipt hash s

/-- The replies of the chain and of a signer to an operation. -/
def reply (scheme : Scheme) (c : Settings) (signer : Signer) (act : Act) (s : State) :
    act.Reply × State :=
  match act with
  | .query q => answer scheme c q s
  | .sign request => (signer.sign request, s)

end Chain

end Sandwich
