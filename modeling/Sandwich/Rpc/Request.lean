import Sandwich.Client
import Sandwich.Hex
import Sandwich.Json

/-! Requests to a node over the wire, and its responses. -/

namespace Sandwich.Rpc

/-- A method and its parameters; some methods take none. -/
structure Request where
  method : String
  params : Option (List Json) := none

/-- What comes back for a request. -/
inductive Response
  | result (value : Json)
  | error (code : Int) (message : String) (data : Option Json)
  /-- Nothing comes back. -/
  | lost (reason : String)

/-- The block whose state is read. -/
def latest : Json := .str "latest"

def address (a : Address) : Json := .str a.toHex

/-- The request that asks for the answer to a question. -/
def Request.ofQuery : Query → Request
  | .balance account => ⟨"eth_getBalance", some [address account, latest]⟩
  | .transactionCount account => ⟨"eth_getTransactionCount", some [address account, latest]⟩
  | .gasPrice => ⟨"eth_gasPrice", none⟩
  | .maxPriorityFee => ⟨"eth_maxPriorityFeePerGas", none⟩
  | .chainId => ⟨"eth_chainId", none⟩
  | .call receiver input =>
    ⟨"eth_call",
      some [.obj [("to", address receiver), ("input", .str (Hex.encode input))], .str "pending"]⟩
  | .sendRaw raw => ⟨"eth_sendRawTransaction", some [.str (Hex.encode raw)]⟩
  | .awaitReceipt hash => ⟨"eth_getTransactionReceipt", some [.str hash.toHex]⟩

end Sandwich.Rpc
