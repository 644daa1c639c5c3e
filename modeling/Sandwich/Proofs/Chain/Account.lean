import Sandwich.Proofs.Chain.Submission
import Sandwich.Proofs.Sequencer.Course

/-! Accounts that sign what they send. What an account has signed is read back as the
transaction that was to be signed, and as its own. Where the signatures of single
transactions and their hashes are given, this can be seen without the curve. -/

namespace Sandwich

/-- What the signer signs can be read back, and the account found in it is the signer's. -/
def Signer.ReadBack (scheme : Scheme) (signer : Signer) : Prop :=
  ∀ request raw, signer.sign request = .ok raw → ∃ signed, scheme.decode raw = .ok signed ∧
    request.complete = .ok signed.transaction ∧ scheme.sender? signed = some signer.address

theorem Signer.ReadBack.with_digest {scheme : Scheme} {signer : Signer}
    (h : signer.ReadBack scheme) (digest : Bytes → Word) :
    signer.ReadBack { scheme with digest } := h

namespace Dispatch

def transaction (d : Dispatch) (s : Sequencer) (nonce : UInt64) (fees : Fees) : Transaction where
  chainId := some s.chainId
  nonce := nonce
  gasLimit := d.gasLimit
  receiver := some d.receiver
  value := d.value
  input := d.input
  kind := fees.kind

theorem complete_request (d : Dispatch) (s : Sequencer) (nonce : UInt64) (fees : Fees) :
    (d.request s nonce fees).complete = .ok (d.transaction s nonce fees) := by
  cases fees <;> rfl

end Dispatch

namespace Chain

abbrev ownSequencer (c : Settings) (signer : Signer) : Sequencer := ⟨signer.address, c.chainId⟩

/-- The fee policy comes to fees, and with them and `nonce` the transaction gets signed. -/
def Signable (c : Settings) (signer : Signer) (nonce : UInt64) (d : Dispatch) : Prop :=
  ∃ fees raw, d.policy.settle c.priorityFee c.gasPrice = .ok fees ∧
    signer.sign (d.request (ownSequencer c signer) nonce fees) = .ok raw

/-! ### Signatures that are given -/

def devAccount : Address := Octets.ofNat 20 0xf39fd6e51aad88f6f4ce6ab8827279cfffb92266

def devPolicy : FeePolicy := .legacy (some 20000000000)

/-- A transaction of that account on the first chain, with its signature and its hash. -/
structure SignedDispatch where
  dispatch : Dispatch
  nonce : UInt64
  signature : Signature
  hash : Word

namespace SignedDispatch

def request (x : SignedDispatch) : Transaction.Request :=
  x.dispatch.request ⟨devAccount, 1⟩ x.nonce (.legacy 20000000000)

def signed (x : SignedDispatch) : SignedTransaction where
  transaction := x.dispatch.transaction ⟨devAccount, 1⟩ x.nonce (.legacy 20000000000)
  signature := x.signature

end SignedDispatch

/-- Transactions are decoded as ever. Of these the sender and the hashes are given. -/
def schemeOf (xs : List SignedDispatch) : Scheme :=
  .tabulated (xs.map fun x => (x.signed, devAccount, x.hash))

/-- The account's signer, as far as it is asked for these transactions. -/
def signerOf (xs : List SignedDispatch) : Signer where
  address := devAccount
  sign request :=
    match xs.find? (·.request = request) with
    | some x => .ok x.signed.encode
    | none => .error (.refused "signature error")

variable {xs : List SignedDispatch}

theorem sender?_schemeOf {x : SignedDispatch} (hx : x ∈ xs) :
    (schemeOf xs).sender? x.signed = some devAccount := by
  let table := xs.map fun x => (x.signed, devAccount, x.hash)
  have hrow : (x.signed, devAccount, x.hash) ∈ table := List.mem_map_of_mem hx
  obtain ⟨row, hfind⟩ : ∃ row, table.find? (·.1 = x.signed) = some row :=
    Option.isSome_iff_exists.mp (List.find?_isSome.mpr ⟨_, hrow, decide_eq_true rfl⟩)
  obtain ⟨y, -, rfl⟩ := List.mem_map.mp (List.mem_of_find?_eq_some hfind)
  exact congrArg (Option.map (·.2.1)) hfind

theorem readBack_signerOf
    (h : ∀ x ∈ xs, SignedTransaction.decode x.signed.encode = .ok x.signed) :
    (signerOf xs).ReadBack (schemeOf xs) := by
  intro request raw hsign
  simp only [signerOf] at hsign
  split at hsign
  next x hfind =>
    obtain rfl := Except.ok.inj hsign
    have hx := List.mem_of_find?_eq_some hfind
    have hrequest : x.request = request := by simpa using List.find?_some hfind
    rw [← hrequest, SignedDispatch.request]
    have hdecode : (schemeOf xs).decode = SignedTransaction.decode := rfl
    exact ⟨x.signed, hdecode ▸ h x hx, Dispatch.complete_request _ _ _ _, sender?_schemeOf hx⟩
  next => cases hsign

theorem signable_of_mem {d : Dispatch} {nonce : UInt64} (hpolicy : d.policy = devPolicy)
    (h : (d, nonce) ∈ xs.map fun x => (x.dispatch, x.nonce)) :
    Signable {} (signerOf xs) nonce d := by
  obtain ⟨x, hx, heq⟩ := List.mem_map.mp h
  obtain ⟨rfl, rfl⟩ := Prod.mk.inj heq
  obtain ⟨y, hfind⟩ : ∃ y, xs.find? (·.request = x.request) = some y :=
    Option.isSome_iff_exists.mp (List.find?_isSome.mpr ⟨x, hx, decide_eq_true rfl⟩)
  have hsign : (signerOf xs).sign x.request = .ok y.signed.encode := by simp only [signerOf, hfind]
  exact ⟨.legacy 20000000000, y.signed.encode, by rw [hpolicy]; rfl, hsign⟩

end Chain

end Sandwich
