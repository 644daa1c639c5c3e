import Sandwich.Bytes

/-! What can be asked of a node, and what it answers. -/

namespace Sandwich

/-- An event that a contract emitted. -/
structure Log where
  address : Address
  topics : List Word
  data : Bytes
deriving DecidableEq

/-- What became of a transaction. -/
structure Receipt where
  hash : Word
  success : Bool
  gasUsed : UInt64
  /-- The events in the order of their emission. -/
  logs : List Log
deriving DecidableEq

/-- Why an answer is not of the form that was asked for. -/
structure Mismatch where
  reason : String
  /-- How many bytes of the answer had been read when this showed. -/
  column : Nat
  /-- The answer in its written form. -/
  text : String
deriving DecidableEq

def Mismatch.message (m : Mismatch) : String :=
  "deserialization error: " ++ m.reason ++ " at line 1 column " ++ toString m.column ++ "\n" ++
    m.text

/-- Why a question has no answer. -/
inductive ClientError
  /-- The node answered with an error. The data that came along is in its written form. -/
  | refused (code : Int) (reason : String) (data : Option String)
  /-- The question or the answer got lost. -/
  | transport (reason : String)
  /-- The answer is not of the form that was asked for. -/
  | unreadable (mismatch : Mismatch)
  | other (reason : String)
deriving DecidableEq

def ClientError.message : ClientError → String
  | refused code reason data =>
    "server returned an error response: error code " ++ toString code ++ ": " ++ reason ++
      match data with
      | some text => ", data: " ++ text
      | none => ""
  | transport reason => reason
  | unreadable mismatch => mismatch.message
  | other reason => reason

/-- A question to the node. -/
inductive Query
  | balance (account : Address)
  /-- The number of transactions that an account has sent, which is its next nonce. -/
  | transactionCount (account : Address)
  | gasPrice
  | maxPriorityFee
  | chainId
  /-- A call that changes nothing. -/
  | call (receiver : Address) (input : Bytes)
  /-- A signed transaction to be broadcast. -/
  | sendRaw (raw : Bytes)
  /-- The receipt of a transaction, once there is one. -/
  | awaitReceipt (hash : Word)
deriving DecidableEq

/-- What the answer to a question is. -/
abbrev Query.Answer : Query → Type
  | balance _ => UInt256
  | transactionCount _ => UInt64
  | gasPrice => UInt128
  | maxPriorityFee => UInt128
  | chainId => UInt64
  | call _ _ => Bytes
  | sendRaw _ => Word
  | awaitReceipt _ => Receipt

end Sandwich
