import Sandwich.Command.Basic
import Sandwich.Command.Input
import Sandwich.Rpc.Client
import Sandwich.Signer
import Sandwich.Url

/-! Jobs: what commands do. A job asks the nodes that it is told of, signs with
the key that it is given, and ends in an error or a result. -/

namespace Sandwich.Command

/-- A question to the node of a connection. -/
structure Inquiry where
  connection : Connection
  query : Query

abbrev Inquiry.Reply (inquiry : Inquiry) : Type := Except ClientError inquiry.query.Answer

/-- What is said of a request that gets no response, whatever the reason. -/
def Connection.silence (c : Connection) : String :=
  "error sending request for url (" ++ String.ofList (Url.shown c.url.toList) ++ ")"

/-- Sends requests to the node of a connection. -/
def Connection.transmit (c : Connection) : (act : Rpc.Act) → Rpc.Wire act.Reply
  | .send request => .act (.send request) fun
    | .lost _ => .done (.lost c.silence)
    | response => .done response
  | .sign request => Program.ask (Rpc.Act.sign request)

/-- Asks over the wire. A receipt is polled for `patience` times at most. -/
def Inquiry.ask (patience : Nat) (inquiry : Inquiry) : Rpc.Wire inquiry.Reply :=
  let client : Rpc.Client := {
    maxPollErrors := inquiry.connection.maxPollErrors.toNat
    patience }
  (client.ask inquiry.query).expand inquiry.connection.transmit

/-- A program that asks nodes and ends in an error of a command or an `α`. -/
abbrev Job (α : Type) := ExceptT CommandError (Program Inquiry.Reply) α

/-- An operation whose failures are among the errors of a command. -/
abbrev Task (α : Type) := ExceptT CommandError (Program Act.Reply) α

def Task.ofOperation {α : Type} (operation : Operation α) : Task α :=
  ExceptT.adapt .operation operation

/-- What commands find around them. -/
structure Environment where
  hash : Bytes → Word := Keccak.hash
  files : Files
  compiler : (path : String) → Compiler
  /-- The signer of a key in text. -/
  signer : (key : List Char) → Except Failure Signer := Signer.ofKey

/-- A node, who sends over it, and the chain that is signed for. -/
structure Session where
  connection : Connection
  signer : Signer
  chainId : UInt64

namespace Session

def sequencer (s : Session) : Sequencer := ⟨s.signer.address, s.chainId⟩

/-- The node answers the questions of a task, and the signer signs. -/
def carryOut (s : Session) : (act : Act) → Program Inquiry.Reply act.Reply
  | .query q => Program.ask (Inquiry.mk s.connection q)
  | .sign request => .done (s.signer.sign request)

def perform {α : Type} (s : Session) (task : Task α) : Job α :=
  ExceptT.mk (task.run.expand s.carryOut)

end Session

/-- Whether the node's address is one. -/
def Connection.check (c : Connection) : Except ClientError Unit :=
  (Url.check c.url.toList).mapError fun e =>
    .other ("Invalid RPC URL '" ++ c.url ++ "': " ++ e.message)

/-- The session of a sender. Nothing is asked before the key and the address have been looked at. -/
def SenderOptions.connect (o : SenderOptions) (env : Environment) : Job Session := do
  let signer ← MonadExcept.ofExcept ((env.signer o.key.toList).mapError .operation)
  MonadExcept.ofExcept (o.connection.check.mapError .client)
  let chainId ← match o.chainId with
    | some chainId => pure chainId
    | none => ExceptT.adapt .client (ExceptT.mk (Program.ask (Inquiry.mk o.connection .chainId)))
  ExceptT.lift (Program.tell (.connected o.connection.url chainId signer.address))
  return { connection := o.connection, signer, chainId }

end Sandwich.Command
