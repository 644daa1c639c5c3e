import Sandwich.Curve.Signature
import Sandwich.Rlp
import Sandwich.Transaction.Basic

/-! The binary form of signed transactions. A transaction of type 0 is a bare
list; any other is its type in one byte and then a list. -/

namespace Sandwich

/-- A transaction and its signature. -/
structure SignedTransaction where
  transaction : Transaction
  signature : Signature
deriving DecidableEq

/-- Why bytes are not a signed transaction. -/
inductive TransactionError
  | unexpectedType (type : UInt8)
  | unknownType
  | malformed (e : RlpError)
deriving DecidableEq

def TransactionError.message : TransactionError → String
  | unexpectedType type => "Unexpected type flag. Got " ++ toString type ++ "."
  | unknownType => "unexpected tx type"
  | malformed e => e.message

namespace Transaction

/-! ### Writing -/

def encodeReceiver : Option Address → Bytes
  | some receiver => Rlp.ofBytes receiver.toBytes
  | none => Rlp.ofBytes []

def encodeAccessList (items : AccessList) : Bytes :=
  Rlp.ofItems (items.map fun (account, slots) =>
    Rlp.ofItems [Rlp.ofBytes account.toBytes,
      Rlp.ofItems (slots.map fun slot => Rlp.ofBytes slot.toBytes)])

def encodeDelegation (d : Delegation) : Bytes :=
  Rlp.ofItems [Rlp.ofNat d.chainId.toNat, Rlp.ofBytes d.code.toBytes, Rlp.ofNat d.nonce.toNat,
    Rlp.ofNat d.parity.toNat, Rlp.ofNat d.r.toNat, Rlp.ofNat d.s.toNat]

/-- The parts that come before the signature, each in its form. -/
def encodeParts (t : Transaction) : List Bytes :=
  let start := [Rlp.ofNat ((t.chainId.getD 0).toNat), Rlp.ofNat t.nonce.toNat]
  let call := [Rlp.ofNat t.gasLimit.toNat, encodeReceiver t.receiver, Rlp.ofNat t.value.toNat,
    Rlp.ofBytes t.input]
  match t.kind with
  | .legacy gasPrice => Rlp.ofNat t.nonce.toNat :: Rlp.ofNat gasPrice.toNat :: call
  | .listed gasPrice accessList =>
    start ++ Rlp.ofNat gasPrice.toNat :: call ++ [encodeAccessList accessList]
  | .dynamic tip cap accessList =>
    start ++ [Rlp.ofNat tip.toNat, Rlp.ofNat cap.toNat] ++ call ++ [encodeAccessList accessList]
  | .blobs tip cap accessList blobCap hashes =>
    start ++ [Rlp.ofNat tip.toNat, Rlp.ofNat cap.toNat] ++ call ++
      [encodeAccessList accessList, Rlp.ofNat blobCap.toNat,
        Rlp.ofItems (hashes.map fun hash => Rlp.ofBytes hash.toBytes)]
  | .delegating tip cap accessList delegations =>
    start ++ [Rlp.ofNat tip.toNat, Rlp.ofNat cap.toNat] ++ call ++
      [encodeAccessList accessList, Rlp.ofItems (delegations.map encodeDelegation)]

/-- The list of the parts, with the type in front where there is one. -/
def encodeList (t : Transaction) (parts : List Bytes) : Bytes :=
  match t.kind with
  | .legacy _ => Rlp.ofItems parts
  | kind => kind.number :: Rlp.ofItems parts

/-- The bytes whose hash is signed. A transaction of type 0 for one chain takes
the chain in at the place of the signature. -/
def unsignedBytes (t : Transaction) : Bytes :=
  match t.kind, t.chainId with
  | .legacy _, some chainId =>
    t.encodeList (t.encodeParts ++ [Rlp.ofNat chainId.toNat, Rlp.ofNat 0, Rlp.ofNat 0])
  | _, _ => t.encodeList t.encodeParts

/-- The parity of a signature; in a transaction of type 0 along with the chain. -/
def encodeParity (t : Transaction) (odd : Bool) : Bytes :=
  match t.kind, t.chainId with
  | .legacy _, some chainId => Rlp.ofNat (35 + 2 * chainId.toNat + odd.toNat)
  | .legacy _, none => Rlp.ofNat (27 + odd.toNat)
  | _, _ => Rlp.ofNat odd.toNat

end Transaction

namespace SignedTransaction

/-- The binary form. -/
def encode (s : SignedTransaction) : Bytes :=
  let t := s.transaction
  t.encodeList (t.encodeParts ++ [t.encodeParity s.signature.odd, Rlp.ofNat s.signature.r.toNat,
    Rlp.ofNat s.signature.s.toNat])

/-- The hash that the transaction goes by. -/
def hash (s : SignedTransaction) : Word := Keccak.hash s.encode

/-- The account that signed. -/
def sender? (s : SignedTransaction) : Option Address :=
  s.signature.signer? (Keccak.hash s.transaction.unsignedBytes)

end SignedTransaction

namespace Transaction

/-! ### Reading -/

open Rlp

/-- The receiver; an empty string stands for none. -/
def readReceiver : Rlp.Reader (Option Address)
  | 0x80 :: rest => .ok (none, rest)
  | bs => do
    let (receiver, rest) ← readOctets 20 bs
    return (some receiver, rest)

def readAccess : Rlp.Reader (Address × List Word) :=
  readRecord fun bs => do
    let (account, bs) ← readOctets 20 bs
    let (slots, bs) ← readList (readOctets 32) bs
    return ((account, slots), bs)

def readUInt64 : Rlp.Reader UInt64 := fun bs => do
  let (n, bs) ← readNat 8 bs
  return (UInt64.ofNat n, bs)

def readUInt128 : Rlp.Reader UInt128 := fun bs => do
  let (n, bs) ← readNat 16 bs
  return (BitVec.ofNat 128 n, bs)

/-- A number of at most `width` bytes. A leading zero is told before too many bytes are. -/
def readWide (width : Nat) : Rlp.Reader Nat := fun bs => do
  let (digits, bs) ← readBytes bs
  if digits.head? = some 0 then throw .leadingZero
  return (← number width digits, bs)

def readUInt256 : Rlp.Reader UInt256 := fun bs => do
  let (n, bs) ← readWide 32 bs
  return (BitVec.ofNat 256 n, bs)

def readParity : Rlp.Reader Bool := fun bs => do
  let (n, bs) ← readNat 1 bs
  match n with
  | 0 => return (false, bs)
  | 1 => return (true, bs)
  | _ => throw .invalidBool

/-- Parity and chain out of the number that holds both. -/
def splitParity (v : Nat) : Option (Bool × Option UInt64) :=
  if v = 27 then some (false, none)
  else if v = 28 then some (true, none)
  else if 35 ≤ v ∧ (v - 35) / 2 < bitBound 64 then
    some ((v - 35) % 2 == 1, some (UInt64.ofNat ((v - 35) / 2)))
  else none

def readLegacyParity : Rlp.Reader (Bool × Option UInt64) := fun bs => do
  let (v, bs) ← readNat 16 bs
  match splitParity v with
  | some parity => return (parity, bs)
  | none => throw .invalidParity

/-- The parts of a transaction of type 0, with the signature. -/
def readLegacy : Rlp.Reader SignedTransaction :=
  readRecord fun bs => do
    let (nonce, bs) ← readUInt64 bs
    let (gasPrice, bs) ← readUInt128 bs
    let (gasLimit, bs) ← readUInt64 bs
    let (receiver, bs) ← readReceiver bs
    let (value, bs) ← readUInt256 bs
    let (input, bs) ← readBytes bs
    let ((odd, chainId), bs) ← readLegacyParity bs
    let (r, bs) ← readUInt256 bs
    let (s, bs) ← readUInt256 bs
    return (⟨⟨chainId, nonce, gasLimit, receiver, value, input, .legacy gasPrice⟩, ⟨odd, r, s⟩⟩, bs)

/-- The parts of a transaction, given a reader for them, and then the signature. -/
def readSigned (parts : Rlp.Reader Transaction) : Rlp.Reader SignedTransaction :=
  readRecord fun bs => do
    let (transaction, bs) ← parts bs
    let (odd, bs) ← readParity bs
    let (r, bs) ← readUInt256 bs
    let (s, bs) ← readUInt256 bs
    return (⟨transaction, ⟨odd, r, s⟩⟩, bs)

/-- The parts of a transaction of type 1. -/
def readListed : Rlp.Reader Transaction := fun bs => do
  let (chainId, bs) ← readUInt64 bs
  let (nonce, bs) ← readUInt64 bs
  let (gasPrice, bs) ← readUInt128 bs
  let (gasLimit, bs) ← readUInt64 bs
  let (receiver, bs) ← readReceiver bs
  let (value, bs) ← readUInt256 bs
  let (input, bs) ← readBytes bs
  let (accessList, bs) ← readList readAccess bs
  return (⟨some chainId, nonce, gasLimit, receiver, value, input, .listed gasPrice accessList⟩, bs)

/-- The parts of a transaction of the types 2 to 4: those that all of them have, and then
those that `kind` reads. -/
def readPriced (receiver : Rlp.Reader (Option Address))
    (kind : (tip cap : UInt128) → AccessList → Rlp.Reader Kind) : Rlp.Reader Transaction :=
  fun bs => do
    let (chainId, bs) ← readUInt64 bs
    let (nonce, bs) ← readUInt64 bs
    let (tip, bs) ← readUInt128 bs
    let (cap, bs) ← readUInt128 bs
    let (gasLimit, bs) ← readUInt64 bs
    let (receiver, bs) ← receiver bs
    let (value, bs) ← readUInt256 bs
    let (input, bs) ← readBytes bs
    let (accessList, bs) ← readList readAccess bs
    let (kind, bs) ← kind tip cap accessList bs
    return (⟨some chainId, nonce, gasLimit, receiver, value, input, kind⟩, bs)

/-- The receiver of a transaction that creates no contract. -/
def readAccount : Rlp.Reader (Option Address) := fun bs => do
  let (account, bs) ← readOctets 20 bs
  return (some account, bs)

/-- The parts of a transaction of type 2. -/
def readDynamic : Rlp.Reader Transaction :=
  readPriced readReceiver fun tip cap accessList bs => .ok (.dynamic tip cap accessList, bs)

/-- The parts of a transaction of type 3. -/
def readBlobs : Rlp.Reader Transaction :=
  readPriced readAccount fun tip cap accessList bs => do
    let (blobCap, bs) ← readUInt128 bs
    let (hashes, bs) ← readList (readOctets 32) bs
    return (.blobs tip cap accessList blobCap hashes, bs)

/-- The blobs behind a transaction, each one with a commitment and at least one proof. They
are not kept. A version in front tells that there are proofs for every part of a blob. -/
def skipBlobs : Rlp.Reader Unit := fun bs => do
  let bs := if bs.head? = some 1 then bs.drop 1 else bs
  let (_, bs) ← readList (readOctets 131072) bs
  let (_, bs) ← readList (readOctets 48) bs
  let (_, bs) ← readList (readOctets 48) bs
  return ((), bs)

/-- A transaction of type 3 in a list with its blobs, or on its own. -/
def readWithBlobs : Rlp.Reader SignedTransaction := fun bs =>
  let together := readRecord fun bs => do
    let (signed, bs) ← readSigned readBlobs bs
    let ((), bs) ← skipBlobs bs
    return (signed, bs)
  match together bs with
  | .ok result => .ok result
  | .error _ => readSigned readBlobs bs

def readDelegation : Rlp.Reader Delegation :=
  readRecord fun bs => do
    let (chainId, bs) ← readUInt256 bs
    let (code, bs) ← readOctets 20 bs
    let (nonce, bs) ← readUInt64 bs
    let (parity, bs) ← readWide 1 bs
    let (r, bs) ← readUInt256 bs
    let (s, bs) ← readUInt256 bs
    return (⟨chainId, code, nonce, UInt8.ofNat parity, r, s⟩, bs)

/-- The parts of a transaction of type 4. -/
def readDelegating : Rlp.Reader Transaction :=
  readPriced readAccount fun tip cap accessList bs => do
    let (delegations, bs) ← readList readDelegation bs
    return (.delegating tip cap accessList delegations, bs)

end Transaction

namespace SignedTransaction

open Transaction

/-- The transaction at the front of the bytes; what comes after it is ignored. -/
def decode (bs : Bytes) : Except TransactionError SignedTransaction :=
  let read (reader : Rlp.Reader SignedTransaction) (bs : Bytes) :=
    ((reader bs).map (·.1)).mapError TransactionError.malformed
  match bs with
  | [] => .error (.unexpectedType 0)
  | type :: rest =>
    if 0x80 ≤ type then ((readLegacy bs).map (·.1)).mapError fun _ => .unexpectedType 0
    else
      match type with
      | 0 => read readLegacy rest
      | 1 => read (readSigned readListed) rest
      | 2 => read (readSigned readDynamic) rest
      | 3 => read readWithBlobs rest
      | 4 => read (readSigned readDelegating) rest
      | _ => .error .unknownType

end SignedTransaction

end Sandwich
