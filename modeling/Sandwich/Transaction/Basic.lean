import Sandwich.Bytes

/-! Transactions, the fees that they offer, and requests for them in which any
part may still be open. -/

namespace Sandwich

/-- What a transaction offers for a unit of gas, in wei. -/
inductive Fees
  /-- One price, in a transaction of type 0. -/
  | legacy (gasPrice : UInt128)
  /-- A tip, and the cap on the whole price, in a transaction of type 2. -/
  | dynamic (tip cap : UInt128)
deriving DecidableEq

/-- The storage that a transaction touches, by account. -/
abbrev AccessList := List (Address × List Word)

/-- A signed leave for an account to act by the code of another one. -/
structure Delegation where
  /-- Zero stands for any chain. -/
  chainId : UInt256
  code : Address
  nonce : UInt64
  parity : UInt8
  r : UInt256
  s : UInt256
deriving DecidableEq

/-- What a transaction of each type offers for a unit of gas, in wei, and brings along. -/
inductive Kind
  /-- Type 0: one price. -/
  | legacy (gasPrice : UInt128)
  /-- Type 1: one price, and the storage that is touched, announced ahead. -/
  | listed (gasPrice : UInt128) (accessList : AccessList)
  /-- Type 2: a tip, and the cap on the whole price. -/
  | dynamic (tip cap : UInt128) (accessList : AccessList)
  /-- Type 3: as type 2, with the hashes of blobs and the cap on the price of their gas. -/
  | blobs (tip cap : UInt128) (accessList : AccessList) (blobCap : UInt128) (hashes : List Word)
  /-- Type 4: as type 2, with leaves to act by other code. -/
  | delegating (tip cap : UInt128) (accessList : AccessList) (delegations : List Delegation)
deriving DecidableEq

namespace Kind

/-- The number of the type. -/
def number : Kind → UInt8
  | legacy .. => 0
  | listed .. => 1
  | dynamic .. => 2
  | blobs .. => 3
  | delegating .. => 4

/-- The one price, in a type that has no tip. -/
def gasPrice? : Kind → Option UInt128
  | legacy gasPrice | listed gasPrice _ => some gasPrice
  | _ => none

/-- The tip, in a type that has one. -/
def tip? : Kind → Option UInt128
  | dynamic tip .. | blobs tip .. | delegating tip .. => some tip
  | _ => none

/-- The most that is paid for a unit of gas. -/
def cap : Kind → UInt128
  | legacy gasPrice | listed gasPrice _ => gasPrice
  | dynamic _ cap _ | blobs _ cap .. | delegating _ cap .. => cap

end Kind

/-- The transaction type that offers the fees, with nothing announced ahead. -/
def Fees.kind : Fees → Kind
  | legacy gasPrice => .legacy gasPrice
  | dynamic tip cap => .dynamic tip cap []

/-- A transaction without its signature. -/
structure Transaction where
  /-- A transaction of type 0 may be valid on any chain. -/
  chainId : Option UInt64
  nonce : UInt64
  gasLimit : UInt64
  /-- The receiver; without one a contract is created. -/
  receiver : Option Address
  value : UInt256
  input : Bytes
  kind : Kind
deriving DecidableEq

namespace Transaction

/-- What the signer is asked for. -/
structure Request where
  receiver : Option Address := none
  input : Bytes := []
  value : Option UInt256 := none
  nonce : Option UInt64 := none
  gasLimit : Option UInt64 := none
  chainId : Option UInt64 := none
  gasPrice : Option UInt128 := none
  tip : Option UInt128 := none
  cap : Option UInt128 := none
deriving DecidableEq

/-- A request that leaves `missing` open. -/
structure Incomplete where
  isLegacy : Bool
  missing : List String
deriving DecidableEq

def Incomplete.message (e : Incomplete) : String :=
  "Failed to build transaction: " ++ (if e.isLegacy then "Legacy" else "EIP-1559") ++
    " transaction can't be built due to missing keys: [" ++
    ", ".intercalate (e.missing.map fun key => "\"" ++ key ++ "\"") ++ "]"

namespace Request

/-- The request of a transaction: no part of it is open. -/
def ofTransaction (t : Transaction) : Request where
  receiver := t.receiver
  input := t.input
  value := some t.value
  nonce := some t.nonce
  gasLimit := some t.gasLimit
  chainId := t.chainId
  gasPrice := t.kind.gasPrice?
  tip := t.kind.tip?
  cap := if t.kind.gasPrice?.isSome then none else some t.kind.cap

/-- The names of the parts that are open although a transaction needs them. -/
def missing (r : Request) : List String :=
  (if r.nonce.isNone then ["nonce"] else []) ++
  (if r.gasLimit.isNone then ["gas_limit"] else []) ++
  (if r.receiver.isNone then ["to"] else []) ++
  if r.gasPrice.isSome then []
  else
    (if r.cap.isNone then ["max_fee_per_gas"] else []) ++
    (if r.tip.isNone then ["max_priority_fee_per_gas"] else [])

/-- The fees asked for. A gas price makes the transaction one of type 0. -/
def fees? (r : Request) : Option Fees :=
  match r.gasPrice, r.tip, r.cap with
  | some gasPrice, _, _ => some (.legacy gasPrice)
  | none, some tip, some cap => some (.dynamic tip cap)
  | none, _, _ => none

/-- The transaction asked for. An open value is zero, and an open chain is the
first one for a transaction of type 2. -/
def complete (r : Request) : Except Incomplete Transaction :=
  match r.nonce, r.gasLimit, r.receiver, r.fees? with
  | some nonce, some gasLimit, some receiver, some fees =>
    .ok {
      chainId := match fees with
        | .legacy _ => r.chainId
        | .dynamic _ _ => some (r.chainId.getD 1)
      nonce
      gasLimit
      receiver := some receiver
      value := r.value.getD 0
      input := r.input
      kind := fees.kind }
  | _, _, _, _ => .error ⟨r.gasPrice.isSome, r.missing⟩

end Request

end Transaction

end Sandwich
