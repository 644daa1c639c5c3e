import Sandwich.Operation
import Sandwich.Rpc.Mismatch
import Sandwich.Rpc.Request

/-! The questions of an operation, asked by requests over the wire. A receipt
is polled for until it is there. A poll that fails is tried again, unless as
many polls before it as are put up with have failed one after the other. -/

namespace Sandwich.Rpc

/-- What an operation over the wire asks for. -/
inductive Act
  | send (request : Request)
  | sign (request : Transaction.Request)

/-- A response to what is sent, and the signer's reply to the rest. -/
abbrev Act.Reply : Act → Type
  | send _ => Response
  | sign _ => Except SigningError Bytes

/-- A program that acts on the wire and the signer. -/
abbrev Wire (α : Type) := Program Act.Reply α

/-- The result that a response carries. -/
def Response.result? : Response → Except ClientError Json
  | .result value => .ok value
  | .error code message data => .error (.refused code message (data.map Json.render))
  | .lost reason => .error (.transport reason)

/-- The answer to a question that a response carries. -/
def Response.answer? (q : Query) (response : Response) : Except ClientError q.Answer := do
  let value ← response.result?
  match Rpc.answer? q value with
  | some answer => return answer
  | none => throw (.unreadable (mismatch q value))

/-! ### Polling -/

/-- What a poll found. -/
inductive Poll
  | found (receipt : Receipt)
  | pending
  | failed (error : ClientError)
deriving DecidableEq

/-- Whether polling goes on, and if so how many polls in a row have failed. -/
inductive Progress
  | waiting (errors : Nat)
  | ended (result : Except ClientError Receipt)

/-- Where a poll leads when the last `errors` polls have failed and `maxErrors` may. -/
def Poll.advance (maxErrors errors : Nat) : Poll → Progress
  | found receipt => .ended (.ok receipt)
  | pending => .waiting 0
  | failed error => if errors < maxErrors then .waiting (errors + 1) else .ended (.error error)

/-- What a response to a poll says. -/
def Poll.ofResponse (hash : Word) : Response → Poll
  | .result .null => .pending
  | response =>
    match response.answer? (.awaitReceipt hash) with
    | .ok receipt => .found receipt
    | .error error => .failed error

/-- The event when polling goes on after a poll, `errors` in a row having failed. -/
def Poll.event? (hash : Word) (errors : Nat) : Poll → Option Event
  | found _ => none
  | pending => some (.receiptPending hash)
  | failed error => some (.pollFailed hash error errors)

/-- Polls for a receipt, `polls` times at most; nothing if it is still being waited for. -/
def awaitReceipt (maxErrors : Nat) (hash : Word) :
    (polls errors : Nat) → Wire (Option (Except ClientError Receipt))
  | 0, _ => .done none
  | polls + 1, errors =>
    .act (.send (.ofQuery (.awaitReceipt hash))) fun response =>
      let poll := Poll.ofResponse hash response
      match poll.advance maxErrors errors with
      | .ended result => .done (some result)
      | .waiting errors =>
        match poll.event? hash errors with
        | some event => .report event (awaitReceipt maxErrors hash polls errors)
        | none => awaitReceipt maxErrors hash polls errors

/-! ### Answers -/

/-- How patient a client is. -/
structure Client where
  /-- How many polls for a receipt may fail in a row. -/
  maxPollErrors : Nat := 5
  /-- How often a receipt is polled for before the client gives up on it. -/
  patience : Nat
deriving DecidableEq

/-- Asks one question. -/
def Client.ask (client : Client) (q : Query) : Wire (Except ClientError q.Answer) :=
  match q with
  | .awaitReceipt hash => do
    match ← awaitReceipt client.maxPollErrors hash client.patience 0 with
    | some result => return result
    | none => return .error (.other "gave up waiting for the receipt")
  | q => .act (.send (.ofQuery q)) fun response => .done (response.answer? q)

/-- Has an operation ask its questions over the wire. -/
def Client.carryOut (client : Client) : (act : Sandwich.Act) → Wire act.Reply
  | .query q => client.ask q
  | .sign request => Program.ask (Act.sign request)

/-- The operation over the wire. -/
def Client.connect {α : Type} (client : Client) (operation : Operation α) :
    Wire (Except Failure α) :=
  operation.run.expand client.carryOut

end Sandwich.Rpc
