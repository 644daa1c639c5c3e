import Sandwich.Amount
import Sandwich.Failure

/-! Why a command failed. -/

namespace Sandwich

/-- Why there is no text in a file. -/
inductive FileError
  | inaccessible (e : AccessError)
  /-- The bytes are not in UTF-8. -/
  | notText
deriving DecidableEq

def FileError.message : FileError → String
  | inaccessible e => e.message
  | notText => "stream did not contain valid UTF-8"

/-- What is wrong with the values on a command line. -/
inductive InputError
  | amount (e : AmountError)
  /-- A text of this many bytes after its mark is no hexadecimal text. -/
  | oddHex (length : Nat)
  | gasPriceWithoutLegacy
  | tipWithLegacy
  | noBytecode
  | emptyPayload
deriving DecidableEq

def InputError.message : InputError → String
  | amount e => e.message
  | oddHex length => "Invalid hex string length: " ++ toString length ++ " (must be even)"
  | gasPriceWithoutLegacy => "--gas-price is only valid together with --legacy"
  | tipWithLegacy => "--priority-fee and --max-fee are not valid for legacy transactions"
  | noBytecode => "one of --source, --bytecode or --bytecode-file is required"
  | emptyPayload => "empty payload"

/-- Why a command failed. -/
inductive CommandError
  | operation (e : Failure)
  /-- The node did not answer, or there is no way to reach it. -/
  | client (e : ClientError)
  | payload (e : PayloadError)
  | file (e : FileError)
  | hex (e : HexError)
  | input (e : InputError)
deriving DecidableEq

def CommandError.message : CommandError → String
  | operation e => e.message
  | client e => "RPC error: " ++ e.message
  | payload e => "Payload error: " ++ e.message
  | file e => "Failed to read file: " ++ e.message
  | hex e => "Invalid hex string: " ++ e.message
  | input e => "Invalid input: " ++ e.message

end Sandwich
