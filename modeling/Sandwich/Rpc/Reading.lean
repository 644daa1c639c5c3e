import Sandwich.Client
import Sandwich.Hex
import Sandwich.Json

/-! What the results of a node mean. A number is a numeral in one of four
bases or a plain number, and has to fit into its width; bytes are hexadecimal
text or a list of numbers. -/

namespace Sandwich.Rpc

/-! ### Numbers and bytes -/

/-- The value of a digit of either case, up to base thirty-six. -/
def digitValue? (c : Char) : Option Nat :=
  if c.isDigit then some (c.toNat - '0'.toNat)
  else if c.isLower then some (c.toNat - 'a'.toNat + 10)
  else if c.isUpper then some (c.toNat - 'A'.toNat + 10)
  else none

/-- The number that goes on with the digits after `n`. Underscores are passed
over, and no number on the way may reach `bound`. -/
def readNumeral (base bound : Nat) : (n : Nat) → List Char → Option Nat
  | n, [] => some n
  | n, c :: cs =>
    if c = '_' then readNumeral base bound n cs
    else
      match digitValue? c with
      | none => none
      | some digit =>
        let n := base * n + digit
        if digit < base && n < bound then readNumeral base bound n cs else none

/-- A numeral, its base told by how it starts. -/
def numeral? (bound : Nat) (cs : List Char) : Option Nat :=
  match cs with
  | '0' :: 'x' :: digits => readNumeral 16 bound 0 digits
  | '0' :: 'X' :: digits => readNumeral 16 bound 0 digits
  | '0' :: 'o' :: digits => readNumeral 8 bound 0 digits
  | '0' :: 'O' :: digits => readNumeral 8 bound 0 digits
  | '0' :: 'b' :: digits => readNumeral 2 bound 0 digits
  | '0' :: 'B' :: digits => readNumeral 2 bound 0 digits
  | digits => readNumeral 10 bound 0 digits

/-- A number of at most `bits` bits. -/
def quantity? (bits : Nat) : Json → Option Nat
  | .str s => numeral? (bitBound bits) s.toList
  | .num n => if 0 ≤ n ∧ n < bitBound 64 ∧ n < bitBound bits then some n.toNat else none
  | _ => none

def byte? : Json → Option UInt8
  | .num n => if 0 ≤ n ∧ n < 256 then some (UInt8.ofNat n.toNat) else none
  | _ => none

def bytes? : Json → Option Bytes
  | .str s => (Hex.decode s.toList).toOption
  | .arr items => items.mapM byte?
  | _ => none

/-- As `bytes?`, for `n` bytes. An item behind those of a list is passed over if it is no byte. -/
def octets? (n : Nat) : Json → Option (Octets n)
  | .str s => (Hex.decodeOctets n s.toList).toOption
  | .arr items =>
    match items.drop n with
    | [] => (items.mapM byte?).bind (Octets.ofBytes? n)
    | [item] =>
      if (byte? item).isNone then ((items.take n).mapM byte?).bind (Octets.ofBytes? n) else none
    | _ => none
  | _ => none

/-! ### Receipts -/

/-- Whether the member `name`, if it is there, is of the form that `read` takes. -/
def optional {α : Type} (read : Json → Option α) (name : String) (object : Json) : Bool :=
  match object.member? name with
  | none => true
  | some value => (read value).isSome

/-- The member `name` in the form that `read` takes. -/
def required {α : Type} (read : Json → Option α) (name : String) (object : Json) : Option α :=
  (object.member? name).bind read

def array? : Json → Option (List Json)
  | .arr items => some items
  | _ => none

def truth? : Json → Option Bool
  | .bool b => some b
  | _ => none

/-- The members of an event that may be null but not missing. -/
def logCircumstances : List String := ["blockNumber", "transactionIndex", "logIndex"]

/-- An event with the circumstances of its emission, which are not kept. -/
def log? (value : Json) : Option Log := do
  let address ← required (octets? 20) "address" value
  let topics ← (← required array? "topics" value).mapM (octets? 32)
  let data ← required bytes? "data" value
  if optional (octets? 32) "blockHash" value && optional (quantity? 64) "blockNumber" value &&
      optional (quantity? 64) "blockTimestamp" value &&
      optional (octets? 32) "transactionHash" value &&
      optional (quantity? 64) "transactionIndex" value &&
      optional (quantity? 64) "logIndex" value && logCircumstances.all (Json.has · value) &&
      (!value.has "removed" || (required truth? "removed" value).isSome) then
    some { address, topics, data }
  else none

/-- The types that a transaction may be of; as numbers they are those up to four. -/
def transactionTypes : List String :=
  ["0x0", "0x00", "0x1", "0x01", "0x2", "0x02", "0x3", "0x03", "0x4", "0x04"]

def transactionType? : Json → Option Unit
  | .str s => if s ∈ transactionTypes then some () else none
  | .num n => if 0 ≤ n ∧ n ≤ 4 then some () else none
  | _ => none

/-- The price that was paid for a unit of gas, which goes by one of two names. -/
def pricePaid? (value : Json) : Option Nat :=
  match ["effectiveGasPrice", "gasPrice"].filter (Json.has · value) with
  | [name] => required (quantity? 128) name value
  | _ => none

/-- Whether the transaction succeeded. Where receipts tell a state instead, it did. -/
def success? (value : Json) : Option Bool :=
  match required (quantity? 1) "status" value with
  | some status => some (status == 1)
  | none => (required (octets? 32) "root" value).map fun _ => true

/-- A receipt. All that it has to hold is looked at, even what is not kept. -/
def receipt? (value : Json) : Option Receipt := do
  required transactionType? "type" value
  let success ← success? value
  let _ ← required (quantity? 64) "cumulativeGasUsed" value
  let logs ← (← required array? "logs" value).mapM log?
  let _ ← required (octets? 256) "logsBloom" value
  let hash ← required (octets? 32) "transactionHash" value
  let gasUsed ← required (quantity? 64) "gasUsed" value
  let _ ← pricePaid? value
  let _ ← required (octets? 20) "from" value
  if optional (quantity? 64) "transactionIndex" value && optional (octets? 32) "blockHash" value &&
      optional (quantity? 64) "blockNumber" value && optional (quantity? 64) "blobGasUsed" value &&
      optional (quantity? 128) "blobGasPrice" value && optional (octets? 20) "to" value &&
      optional (octets? 20) "contractAddress" value then
    some { hash, success, gasUsed := UInt64.ofNat gasUsed, logs }
  else none

/-- The answer that a result stands for. A missing receipt is not one. -/
def answer? (q : Query) (value : Json) : Option q.Answer :=
  match q with
  | .balance _ => (quantity? 256 value).map (BitVec.ofNat 256)
  | .transactionCount _ => (quantity? 64 value).map UInt64.ofNat
  | .gasPrice => (quantity? 128 value).map (BitVec.ofNat 128)
  | .maxPriorityFee => (quantity? 128 value).map (BitVec.ofNat 128)
  | .chainId => (quantity? 64 value).map UInt64.ofNat
  | .call _ _ => bytes? value
  | .sendRaw _ => octets? 32 value
  | .awaitReceipt _ => receipt? value

end Sandwich.Rpc
