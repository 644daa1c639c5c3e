import Sandwich.Command.Error

/-! Errors spelt out: the constructor, and in it the fields with their names. -/

namespace Sandwich

namespace Inspect

/-- A constructor with unnamed fields. -/
def call (name : String) (fields : List String) : String :=
  name ++ "(" ++ ", ".intercalate fields ++ ")"

/-- A constructor with named fields. -/
def record (name : String) (fields : List (String × String)) : String :=
  name ++ " \x7b " ++ ", ".intercalate (fields.map fun (field, value) => field ++ ": " ++ value) ++
    " \x7d"

def optional : Option String → String
  | some value => call "Some" [value]
  | none => "None"

end Inspect

open Inspect

def FieldKind.inspect : FieldKind → String
  | uint8 => "Uint8"
  | uint32 => "Uint32"
  | uint256 => "Uint256"
  | address => "Address"
  | bytes32 => "Bytes32"
  | compact => "CompactAmount"

def PayloadError.inspect : PayloadError → String
  | valueOutOfRange field width =>
    record "ValueOutOfRange" [("field", Text.quote field), ("width", toString width)]
  | invalidAddress field length =>
    record "InvalidAddress" [("field", Text.quote field), ("len", toString length)]
  | typeMismatch field expected got =>
    record "TypeMismatch"
      [("field", Text.quote field), ("expected", expected.inspect), ("got", Text.quote got)]
  | arityMismatch layout expected got =>
    record "ArityMismatch"
      [("layout", Text.quote layout), ("expected", toString expected), ("got", toString got)]
  | lengthMismatch layout expected got =>
    record "LengthMismatch"
      [("layout", Text.quote layout), ("expected", toString expected), ("got", toString got)]
  | paramIndexOutOfRange index => call "ParamIndexOutOfRange" [toString index]
  | invalidCompactOffset offset => call "InvalidCompactOffset" [toString offset]
  | unknownOpcode opcode => call "UnknownOpcode" [toString opcode]

def Mismatch.inspect (m : Mismatch) : String :=
  record "DeserError"
    [("err", call "Error" [Text.quote m.reason, "line: 1", "column: " ++ toString m.column]),
      ("text", Text.quote m.text)]

def ClientError.inspect : ClientError → String
  | refused code reason data =>
    call "Transport" [call "ErrorResp" [record "ErrorPayload"
      [("code", toString code), ("message", Text.quote reason),
        ("data", optional (data.map fun text => call "RawValue" [text]))]]]
  | transport reason => call "Transport" [Text.quote reason]
  | unreadable mismatch => call "Transport" [mismatch.inspect]
  | other reason => call "Other" [Text.quote reason]

def Failure.inspect : Failure → String
  | encoding e => call "Encoding" [e.inspect]
  | compilerUnavailable e => call "CompilerUnavailable" [Text.quote e.message]
  | compile source fault =>
    record "Compile" [("path", Text.quote source), ("reason", Text.quote fault.message)]
  | emptyBytecode => "EmptyBytecode"
  | read step e => record "Rpc" [("step", Text.quote step.name), ("source", e.inspect)]
  | signing e => call "Signing" [Text.quote e.message]
  | invalidFees cap tip =>
    call "InvalidFeePolicy" [Text.quote ("max fee " ++ toString cap.toNat ++
      " is below priority fee " ++ toString tip.toNat)]
  | submissionRejected nonce e =>
    record "SubmissionRejected" [("nonce", toString nonce), ("reason", Text.quote e.message)]
  | receiptUnavailable hash nonce e =>
    record "ReceiptUnavailable"
      [("tx_hash", hash.toHex), ("nonce", toString nonce), ("source", e.inspect)]
  | reverted hash gasUsed =>
    record "Reverted" [("tx_hash", hash.toHex), ("gas_used", toString gasUsed)]
  | deployment fault hash =>
    record "DeploymentFailed"
      [("reason", Text.quote fault.message), ("tx_hash", optional (some hash.toHex))]
  | nothingToRecover contract => record "NothingToRecover" [("contract", contract.toHex)]
  | unexpectedBalance data =>
    record "UnexpectedReturnData" [("call", Text.quote "balanceOf"), ("data", Hex.encode data)]

/-- The kind of the error. -/
def AccessError.kind : AccessError → String
  | notFound => "NotFound"
  | argumentTooLong => "ArgumentListTooLong"
  | denied => "PermissionDenied"
  | notDirectory => "NotADirectory"
  | isDirectory => "IsADirectory"
  | nameTooLong => "InvalidFilename"
  | zeroInName | zeroInCommand => "InvalidInput"

def AccessError.inspect (e : AccessError) : String :=
  match e.code? with
  | some code =>
    record "Os" [("code", toString code), ("kind", e.kind), ("message", Text.quote e.text)]
  | none => record "Error" [("kind", e.kind), ("message", Text.quote e.text)]

def FileError.inspect : FileError → String
  | inaccessible e => e.inspect
  | notText => record "Error" [("kind", "InvalidData"), ("message", Text.quote notText.message)]

def CommandError.inspect : CommandError → String
  | operation e => call "Ops" [e.inspect]
  | client e => call "Client" [e.inspect]
  | payload e => call "Payload" [e.inspect]
  | file e => call "FileRead" [e.inspect]
  | hex e => call "InvalidHex" [e.inspect]
  | input e => call "InvalidInput" [Text.quote e.message]

end Sandwich
