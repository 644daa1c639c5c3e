import Sandwich.Checksum
import Sandwich.Client
import Sandwich.Layout.Error
import Sandwich.Transaction.Basic

/-! Why an operation on the chain failed. Each cause says how far the
operation got, and so whether it is safe to try again. -/

namespace Sandwich

/-- What was being read from the node. -/
inductive ReadStep
  | nonce
  | priorityFee
  | gasPrice
  | wrappedBalance
deriving DecidableEq

def ReadStep.name : ReadStep → String
  | nonce => "nonce"
  | priorityFee => "priority fee"
  | gasPrice => "gas price"
  | wrappedBalance => "wrapped balance"

/-- Why a text is not a private key. -/
inductive KeyError
  | malformed (e : HexError)
  /-- The number is zero, or not below the order of the curve. -/
  | outOfRange
deriving DecidableEq

def KeyError.message : KeyError → String
  | malformed e => e.message
  | outOfRange => "signature error"

/-- Why there is no signature. -/
inductive SigningError
  | invalidKey (e : KeyError)
  | incomplete (e : Transaction.Incomplete)
  | refused (reason : String)
deriving DecidableEq

def SigningError.message : SigningError → String
  | invalidKey e => "Invalid private key: " ++ e.message
  | incomplete e => e.message
  | refused reason => reason

/-- Why a file or a program cannot be opened. -/
inductive AccessError
  | notFound
  | denied
  | notDirectory
  | isDirectory
  | nameTooLong
  /-- A zero byte would end the name of the file early. -/
  | zeroInName
  /-- A zero byte would end the name of the program or an argument early. -/
  | zeroInCommand
  | argumentTooLong
deriving DecidableEq

namespace AccessError

/-- The number that the system has for the error, if it comes from there. -/
def code? : AccessError → Option Nat
  | notFound => some 2
  | argumentTooLong => some 7
  | denied => some 13
  | notDirectory => some 20
  | isDirectory => some 21
  | nameTooLong => some 36
  | zeroInName | zeroInCommand => none

def text : AccessError → String
  | notFound => "No such file or directory"
  | argumentTooLong => "Argument list too long"
  | denied => "Permission denied"
  | notDirectory => "Not a directory"
  | isDirectory => "Is a directory"
  | nameTooLong => "File name too long"
  | zeroInName => "file name contained an unexpected NUL byte"
  | zeroInCommand => "nul byte found in provided data"

def message (e : AccessError) : String :=
  match e.code? with
  | some code => e.text ++ " (os error " ++ toString code ++ ")"
  | none => e.text

end AccessError

/-- Why there is no compiler. -/
inductive CompilerError
  | absent (program : String)
  | notStarted (program : String) (e : AccessError)
  | disabled
deriving DecidableEq

def CompilerError.message : CompilerError → String
  | absent program => "`" ++ program ++ "` is not installed or not executable"
  | notStarted program e => program ++ ": " ++ e.message
  | disabled => "static compiler disabled"

/-- Why a compiler gave no bytecode. -/
inductive CompileFault
  /-- The compiler ended with an error; what it wrote. -/
  | failed (output : String)
  | invalidOutput (e : HexError)
deriving DecidableEq

def CompileFault.message : CompileFault → String
  | failed output => output
  | invalidOutput e => "compiler printed invalid hex: " ++ e.message

/-- Why a mined transaction to the factory is no deployment. -/
inductive DeploymentFault
  | reverted (gasUsed : UInt64)
  | noEvent
deriving DecidableEq

def DeploymentFault.message : DeploymentFault → String
  | reverted gasUsed => "factory call reverted after using " ++ toString gasUsed ++ " gas"
  | noEvent => "receipt carries no deployment event"

/-- Why an operation failed. -/
inductive Failure
  /-- A payload could not be packed. Nothing was sent. -/
  | encoding (e : PayloadError)
  | compilerUnavailable (e : CompilerError)
  | compile (source : String) (fault : CompileFault)
  | emptyBytecode
  /-- The node did not answer a question. Nothing was sent. -/
  | read (step : ReadStep) (e : ClientError)
  | signing (e : SigningError)
  /-- The cap on the price is below the tip. -/
  | invalidFees (cap tip : UInt128)
  /-- The node did not take the transaction. -/
  | submissionRejected (nonce : UInt64) (e : ClientError)
  /-- The node took the transaction, and its nonce is spent, but there is no receipt. -/
  | receiptUnavailable (hash : Word) (nonce : UInt64) (e : ClientError)
  /-- The transaction was mined and failed. Gas was spent. -/
  | reverted (hash : Word) (gasUsed : UInt64)
  | deployment (fault : DeploymentFault) (hash : Word)
  | nothingToRecover (contract : Address)
  /-- What the wrapped asset answered about a balance is no number. -/
  | unexpectedBalance (data : Bytes)
deriving DecidableEq

namespace Failure

def message : Failure → String
  | encoding e => "Encoding error: " ++ e.message
  | compilerUnavailable e => "Compiler unavailable: " ++ e.message
  | compile source fault => "Failed to compile " ++ source ++ ": " ++ fault.message
  | emptyBytecode => "Refusing to deploy empty bytecode"
  | read step e => "RPC error while fetching " ++ step.name ++ ": " ++ e.message
  | signing e => "Signing failed: " ++ e.message
  | invalidFees cap tip =>
    "Invalid fee policy: max fee " ++ toString cap.toNat ++ " is below priority fee " ++
      toString tip.toNat
  | submissionRejected nonce e =>
    "Transaction with nonce " ++ toString nonce ++ " rejected: " ++ e.message
  | receiptUnavailable hash nonce e =>
    "Transaction " ++ hash.toHex ++ " with nonce " ++ toString nonce ++
      " submitted, receipt unavailable: " ++ e.message
  | reverted hash gasUsed =>
    "Transaction " ++ hash.toHex ++ " reverted after using " ++ toString gasUsed ++ " gas"
  | deployment fault _ => "Deployment failed: " ++ fault.message
  | nothingToRecover contract =>
    "Nothing to recover: " ++ contract.checksummed ++ " holds no wrapped balance"
  | unexpectedBalance data => "Unexpected return data from balanceOf: " ++ Hex.encode data

end Failure

end Sandwich
