import Sandwich.Rpc.Client

/-! The other end of the wire: a node that reads requests and writes the
answers to the questions in them. -/

namespace Sandwich.Rpc

/-! ### Questions -/

def address? : Json → Option Address := octets? 20

/-- The question that a request asks. -/
def Request.query? (request : Request) : Option Query :=
  match request.method, request.params.getD [] with
  | "eth_getBalance", account :: _ => (address? account).map .balance
  | "eth_getTransactionCount", account :: _ => (address? account).map .transactionCount
  | "eth_gasPrice", _ => some .gasPrice
  | "eth_maxPriorityFeePerGas", _ => some .maxPriorityFee
  | "eth_chainId", _ => some .chainId
  | "eth_call", call :: _ => do
    return .call (← required address? "to" call) (← required bytes? "input" call)
  | "eth_sendRawTransaction", raw :: _ => (bytes? raw).map .sendRaw
  | "eth_getTransactionReceipt", hash :: _ => (octets? 32 hash).map .awaitReceipt
  | _, _ => none

/-! ### Answers -/

/-- A number in base sixteen. -/
def quantity (n : Nat) : Json := .str ("0x" ++ Text.hexNumeral n)

def octets {n : Nat} (a : Octets n) : Json := .str a.toHex

/-- An event, the circumstances of its emission being unknown. -/
def logJson (log : Log) : Json := .obj ([
  ("address", octets log.address),
  ("topics", .arr (log.topics.map octets)),
  ("data", .str (Hex.encode log.data))] ++ logCircumstances.map fun name => (name, .null))

/-- A receipt with all that it has to hold, of which nothing beyond the receipt is known. -/
def receiptJson (receipt : Receipt) : Json := .obj [
  ("type", .str "0x2"),
  ("status", quantity (if receipt.success then 1 else 0)),
  ("cumulativeGasUsed", quantity receipt.gasUsed.toNat),
  ("logs", .arr (receipt.logs.map logJson)),
  ("logsBloom", octets (Octets.zero 256)),
  ("transactionHash", octets receipt.hash),
  ("gasUsed", quantity receipt.gasUsed.toNat),
  ("effectiveGasPrice", quantity 0),
  ("from", octets (Octets.zero 20))]

/-- The result that holds an answer. -/
def result (q : Query) (answer : q.Answer) : Json :=
  match q with
  | .balance _ => quantity (BitVec.toNat answer)
  | .transactionCount _ => quantity (UInt64.toNat answer)
  | .gasPrice => quantity (BitVec.toNat answer)
  | .maxPriorityFee => quantity (BitVec.toNat answer)
  | .chainId => quantity (UInt64.toNat answer)
  | .call _ _ => .str (Hex.encode answer)
  | .sendRaw _ => octets (show Word from answer)
  | .awaitReceipt _ => receiptJson answer

/-- The code of an error that has none of its own. -/
def errorCode : Int := -32000

/-- The response that a question's answer makes. -/
def respond (q : Query) : Except ClientError q.Answer → Response
  | .ok answer => .result (result q answer)
  | .error e => .error errorCode e.message none

/-- The replies on the wire of a node that answers from a state, and of a signer. -/
def serve {σ : Type} (answer : (q : Query) → σ → Except ClientError q.Answer × σ)
    (sign : Transaction.Request → Except SigningError Bytes) (act : Act) (s : σ) :
    act.Reply × σ :=
  match act with
  | .sign request => (sign request, s)
  | .send request =>
    match request.query? with
    | none => (.error errorCode "unknown request" none, s)
    | some q =>
      let (result, s) := answer q s
      (respond q result, s)

end Sandwich.Rpc
