import Sandwich.Rpc.Reading

/-! What is wrong with an answer that is not of the form asked for, and how many
bytes of it had been read when this showed. -/

namespace Sandwich.Rpc

/-- What a number is. -/
def number (n : Int) : String :=
  (if Number.isWord n then "integer" else "floating point") ++ " `" ++ Number.render n ++ "`"

/-- What a value is. -/
def describe : Json → String
  | .null => "null"
  | .bool b => "boolean `" ++ (if b then "true" else "false") ++ "`"
  | .num n => number n
  | .str s => "string " ++ Text.quote s
  | .arr _ => "sequence"
  | .obj _ => "map"

/-- The number of bytes that a value takes up. -/
def size (value : Json) : Nat := value.render.utf8ByteSize

/-- How many bytes of a value are read if it is not of the form asked for: one in
brackets is not read to its end. -/
def sizeRead : Json → Nat
  | .arr (_ :: _) => 1
  | .obj (_ :: _) => 1
  | value => size value

/-- What is wrong with an item of a list of bytes that starts after `column` bytes. -/
def itemFault (column : Nat) (item : Json) : String × Nat :=
  match item with
  | .num n =>
    ((if Number.isWord n then "invalid value: " else "invalid type: ") ++ number n ++
      ", expected u8", column + size item)
  | .arr _ | .obj _ => ("invalid type: " ++ describe item ++ ", expected u8", column)
  | _ => ("invalid type: " ++ describe item ++ ", expected u8", column + size item)

/-- What is wrong with a list that should hold `n` items and holds `length`, or more. -/
def lengthFault (n length : Nat) : String :=
  "invalid length " ++ toString length ++ ", expected exactly " ++ toString n ++ " bytes"

/-- What is wrong with a list that should hold `n` bytes. It goes on with these items behind
`index` of them, which with the opening bracket take up `column` bytes. -/
def itemsFault (n : Nat) : (index column : Nat) → List Json → String × Nat
  | index, column, [] => (lengthFault n index, column + 1)
  | index, column, item :: rest =>
    let stop := column + size item
    if (byte? item).isNone then
      if index = n then ("trailing characters", stop + 2) else itemFault column item
    else if index = n then (lengthFault n (n + 1), stop + 1)
    else itemsFault n (index + 1) (if rest.isEmpty then stop else stop + 1) rest

/-- What is wrong with a value that should be `n` bytes. -/
def octetsFault (n : Nat) (value : Json) : String × Nat :=
  match value with
  | .str s =>
    match Hex.decodeOctets n s.toList with
    | .error e => (e.message, size value)
    | .ok _ => ("", size value)
  | .arr items => itemsFault n 0 1 items
  | _ =>
    ("invalid type: " ++ describe value ++ ", expected " ++ toString n ++
      " bytes, represented as a hex string of length " ++ toString (2 * n) ++
      ", an array of u8, or raw bytes", sizeRead value)

/-- What the answer to a question should be. -/
def form : Query → String
  | .balance _ => "a number of 256 bits"
  | .transactionCount _ | .chainId => "a number of 64 bits"
  | .gasPrice | .maxPriorityFee => "a number of 128 bits"
  | .call .. => "bytes"
  | .sendRaw _ => "a hash"
  | .awaitReceipt _ => "a receipt"

/-- What is wrong with a value that should be the answer to a question. -/
def mismatch (q : Query) (value : Json) : Mismatch :=
  let (reason, column) := match q with
    | .sendRaw _ => octetsFault 32 value
    | q => ("invalid type: " ++ describe value ++ ", expected " ++ form q, sizeRead value)
  { reason, column, text := value.render }

end Sandwich.Rpc
