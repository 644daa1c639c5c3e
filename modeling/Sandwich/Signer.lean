import Sandwich.Failure
import Sandwich.Text.Blank
import Sandwich.Transaction.Wire

/-! Signers: an address, and a way to make a signed transaction out of a
request. The one that is used holds a private key. -/

namespace Sandwich

/-- What signs for one address. -/
structure Signer where
  address : Address
  sign : Transaction.Request → Except SigningError Bytes

/-- A scalar that a signature can be made with. -/
structure PrivateKey where
  secret : Nat
  pos : 0 < secret
  lt_order : secret < Secp256k1.order

namespace PrivateKey

/-- The key that thirty-two bytes in hexadecimal text stand for, blanks around them ignored. -/
def parse (text : List Char) : Except KeyError PrivateKey :=
  match Hex.decodeOctets 32 (Text.trim text) with
  | .error e => .error (.malformed e)
  | .ok bytes =>
    if h : 0 < bytes.toNat ∧ bytes.toNat < Secp256k1.order then .ok ⟨bytes.toNat, h.1, h.2⟩
    else .error .outOfRange

def address (key : PrivateKey) : Address := Signature.account key.secret

/-- The signed transaction in its binary form. -/
def sign (key : PrivateKey) (request : Transaction.Request) : Except SigningError Bytes :=
  match request.complete with
  | .error e => .error (.incomplete e)
  | .ok transaction =>
    match Signature.sign key.secret (Keccak.hash transaction.unsignedBytes) with
    | some signature => .ok (SignedTransaction.mk transaction signature).encode
    | none => .error (.refused "signature error")

/-- The signer that holds the key. -/
def signer (key : PrivateKey) : Signer := ⟨key.address, key.sign⟩

end PrivateKey

namespace Signer

/-- The signer of a private key in text. -/
def ofKey (text : List Char) : Except Failure Signer :=
  ((PrivateKey.parse text).map PrivateKey.signer).mapError (.signing ∘ .invalidKey)

end Signer

end Sandwich
