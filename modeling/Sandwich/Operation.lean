import Sandwich.Failure
import Sandwich.Program

/-! Operations: programs whose actions are questions to the node and requests
to the signer, and which may fail. -/

namespace Sandwich

/-- What an operation asks for. -/
inductive Act
  | query (q : Query)
  | sign (request : Transaction.Request)
deriving DecidableEq

/-- The node answers a question or fails; the signer gives the raw transaction or fails. -/
abbrev Act.Reply : Act → Type
  | query q => Except ClientError q.Answer
  | sign _ => Except SigningError Bytes

/-- A program that acts on the node and the signer and ends in a failure or an `α`. -/
abbrev Operation (α : Type) := ExceptT Failure (Program Act.Reply) α

namespace Operation

/-- The answer to a question; `onError` is the failure if there is none. -/
def query (q : Query) (onError : ClientError → Failure) : Operation q.Answer :=
  ExceptT.mk (Program.act (.query q) fun reply => .done (reply.mapError onError))

/-- The answer to a question that is asked in the course of `step`. -/
def read (step : ReadStep) (q : Query) : Operation q.Answer := query q (.read step)

/-- The raw transaction that the signer makes of a request. -/
def sign (request : Transaction.Request) : Operation Bytes :=
  ExceptT.mk (Program.act (.sign request) fun reply => .done (reply.mapError .signing))

def report (event : Event) : Operation Unit := ExceptT.lift (Program.tell event)

/-- The result of a computation that asks for nothing. -/
def ofExcept {ε α : Type} (onError : ε → Failure) (result : Except ε α) : Operation α :=
  ExceptT.mk (.done (result.mapError onError))

end Operation

end Sandwich
