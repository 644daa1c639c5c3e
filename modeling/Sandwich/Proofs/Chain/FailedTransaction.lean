import Mathlib.Data.List.Induction
import Sandwich.Proofs.Chain.Account
import Sandwich.Proofs.Chain.Execution

/-! What a transaction that was taken and then failed leaves behind. Wrapped
balances and code stay as they were. The native value does not come back: it has
moved before the call, unless the receiver was to fail or the sender had too
little. -/

namespace Sandwich.Chain

/-- The native balances once the value of a transaction has moved, if it does move. -/
def paid (s : State) (sender receiver : Address) (value : UInt256) : Table Address UInt256 :=
  if s.reverting.contains receiver then s.balances
  else (transfer s.balances sender receiver value).getD s.balances

section

variable {s : State} {sender receiver : Address} {value : UInt256}

theorem paid_of_mem (hbar : receiver ∈ s.reverting) :
    paid s sender receiver value = s.balances :=
  if_pos (List.contains_iff_mem.mpr hbar)

theorem paid_of_notMem (hbar : receiver ∉ s.reverting) :
    paid s sender receiver value =
      (transfer s.balances sender receiver value).getD s.balances :=
  if_neg (mt List.contains_iff_mem.mp hbar)

end

/-- A value other than zero that moves between two accounts shows in the balance of the first. -/
theorem getD_transfer_ne {balances balances' : Table Address UInt256} {source target : Address}
    {amount : UInt256} (h : transfer balances source target amount = some balances')
    (hamount : amount ≠ 0) (hne : source ≠ target) :
    balances'.getD source 0 ≠ balances.getD source 0 := by
  obtain ⟨hle, rfl⟩ := transfer_eq_some_iff.mp h
  have hdebit := toNat_getD_debit hle source
  rw [if_pos rfl] at hdebit
  rw [credit, Table.getD_set, if_neg hne.symm]
  intro heq
  rw [heq] at hdebit
  exact hamount (BitVec.eq_of_toNat_eq (by simpa using hdebit))

theorem getD_transfer_eq {balances balances' : Table Address UInt256} {source target : Address}
    {amount : UInt256} (h : transfer balances source target amount = some balances')
    (hsame : amount = 0 ∨ source = target) (a : Address) :
    balances'.getD a 0 = balances.getD a 0 := by
  obtain ⟨-, rfl⟩ := transfer_eq_some_iff.mp h
  obtain rfl | rfl := hsame
  · have hsub : ∀ x : UInt256, x - 0 = x := BitVec.sub_zero
    have hadd : ∀ x : UInt256, x + 0 = x := BitVec.add_zero
    rw [credit, debit, hsub, hadd, Table.getD_set_getD, Table.getD_set_getD]
  · rw [credit, debit, Table.getD_set, Table.getD_set, if_pos rfl, BitVec.sub_add_cancel,
      Table.getD_set]
    by_cases ha : source = a
    · rw [if_pos ha, ha]
    · rw [if_neg ha, if_neg ha]

/-- Paying leaves the balances alone if it does not take place, or does not move anything. -/
theorem getD_paid_eq_iff (s : State) (sender receiver : Address) (value : UInt256) :
    (∀ a, (paid s sender receiver value).getD a 0 = s.balances.getD a 0) ↔
      receiver ∈ s.reverting ∨ (s.balances.getD sender 0).toNat < value.toNat ∨ value = 0 ∨
        sender = receiver := by
  by_cases hbar : receiver ∈ s.reverting
  · simp [paid_of_mem hbar, hbar]
  rw [paid_of_notMem hbar]
  cases hpay : transfer s.balances sender receiver value with
  | none =>
    have htoo := transfer_eq_none_iff.mp hpay
    exact iff_of_true (fun _ => rfl) (.inr (.inl htoo))
  | some balances =>
    have henough := Nat.not_lt.mpr (transfer_eq_some_iff.mp hpay).1
    simp only [Option.getD_some, hbar, henough, false_or]
    constructor
    · intro hsame
      by_cases hvalue : value = 0
      · exact .inl hvalue
      · refine .inr (Decidable.byContradiction fun hne => ?_)
        exact getD_transfer_ne hpay hvalue hne (hsame sender)
    · exact fun hsame a => getD_transfer_eq hpay hsame a

/-- A transaction that fails does no more than to move its value. -/
theorem Executed.eq_of_failed {scheme : Scheme} {c : Settings} {sender receiver : Address}
    {value : UInt256} {input : Bytes} {s : State} {e : Execution}
    (h : Executed scheme c sender receiver value input s e) (hfailed : e.success = false) :
    e = .silent false { s with balances := paid s sender receiver value } := by
  cases h with
  | barred hbar => rw [paid_of_mem hbar]
  | unpaid hbar hpay =>
    rw [paid_of_notMem hbar, transfer_eq_none_iff.mpr hpay, Option.getD_none]
  | called hbar hpay hcall =>
    rw [paid_of_notMem hbar, hpay, Option.getD_some]
    cases hcall with
    | failed => rfl
    | deployed | deposited | transferred | recovered | destroyed | obeyed => cases hfailed

/-- What a transaction that was taken and failed has made of the state `s`. -/
structure FailedFrom (s s' : State) (signed : SignedTransaction) (sender : Address) (hash : Word)
    (receipt : Receipt) : Prop where
  /-- The sender's nonce is used up, the transaction is on record with its receipt, and its value
  may have moved. All else is as before. -/
  state : s' = { s with
    nonces := s.nonces.set sender (signed.transaction.nonce + 1)
    balances := paid s sender signed.transaction.callee signed.transaction.value
    receipts := s.receipts.set hash receipt
    submitted := s.submitted ++ [signed] }
  /-- The native balances are as before just if the receiver was to fail, or the sender had too
  little, or there was nothing to move. -/
  balances : (∀ a, s'.balances.getD a 0 = s.balances.getD a 0) ↔
    signed.transaction.callee ∈ s.reverting ∨
      (s.balances.getD sender 0).toNat < signed.transaction.value.toNat ∨
      signed.transaction.value = 0 ∨ sender = signed.transaction.callee

/-- A transaction that was taken and failed changes no wrapped balance and no code, but its value
does not come back. -/
theorem failedFrom_of_submit (scheme : Scheme) (c : Settings) {raw : Bytes} {s s' : State}
    {hash : Word} {receipt : Receipt} (hsubmit : submit scheme c raw s = (.ok hash, s'))
    (hreceipt : s'.receipts.get? hash = some receipt) (hfailed : receipt.success = false) :
    ∃ signed sender, scheme.decode raw = .ok signed ∧ scheme.sender? signed = some sender ∧
      FailedFrom s s' signed sender hash receipt := by
  obtain ⟨signed, sender, e, hdecode, hsender, hexecuted, rfl, rfl⟩ :=
    exists_executed_of_submit scheme c s hsubmit
  rw [get?_receipts_recorded, Option.some_inj] at hreceipt
  subst hreceipt
  have he := hexecuted.eq_of_failed hfailed
  subst he
  exact ⟨signed, sender, hdecode, hsender, rfl, getD_paid_eq_iff s sender _ _⟩

/-! ### A call that the wrapped asset does not know -/

/-- Nine wei for the wrapped asset, with a call of no function that it has. -/
def strayCall : SignedTransaction where
  transaction := {
    chainId := some 1
    nonce := 7
    gasLimit := 250000
    receiver := some mainnetWrapped
    value := 9
    input := [0xde, 0xad, 0xbe, 0xef]
    kind := .legacy 20000000000 }
  signature := {
    odd := false
    r := 0x38bac769a31b17d3db6ca3944ebb4c5c8838d93fb776d828361469eed5e9c0ed
    s := 0x3b5b1fcc8b14763233a3ecb671d5b51e1452124915e48cbede762cb52068abc6 }

def strayHash : Word :=
  Octets.ofNat 32 0xcfdf40b016035ef4d00bb739553ef8918a0b38cf3f119d832b1ae5d99c792db8

def strayScheme : Scheme := .tabulated [(strayCall, devAccount, strayHash)]

def strayStart : State where
  nonces := Table.ofList [(devAccount, 7)]
  balances := Table.ofList [(devAccount, 1000)]

def strayEnd : State := (submit strayScheme {} strayCall.encode strayStart).2

/-- The call is taken and fails, and yet the nine wei are gone. -/
theorem balances_ne_of_strayCall :
    (submit strayScheme {} strayCall.encode strayStart).1 = .ok strayHash ∧
      strayEnd.receipts.get? strayHash = some ⟨strayHash, false, 21064, []⟩ ∧
      strayStart.balances.getD devAccount 0 = 1000 ∧
      strayEnd.balances.getD devAccount 0 = 991 ∧
      strayEnd.balances.getD mainnetWrapped 0 = 9 := by
  decide +kernel

theorem failedFrom_strayCall :
    submit strayScheme {} strayCall.encode strayStart = (.ok strayHash, strayEnd) ∧
      strayEnd.receipts.get? strayHash = some ⟨strayHash, false, 21064, []⟩ ∧
      ∃ signed sender, strayScheme.decode strayCall.encode = .ok signed ∧
        strayScheme.sender? signed = some sender ∧
        FailedFrom strayStart strayEnd signed sender strayHash ⟨strayHash, false, 21064, []⟩ := by
  have htaken : (submit strayScheme {} strayCall.encode strayStart).1 = .ok strayHash := by
    decide +kernel
  have hsubmit : submit strayScheme {} strayCall.encode strayStart = (.ok strayHash, strayEnd) :=
    Prod.ext htaken (by simp only [strayEnd])
  have hreceipt : strayEnd.receipts.get? strayHash = some ⟨strayHash, false, 21064, []⟩ := by
    decide +kernel
  exact ⟨hsubmit, hreceipt, failedFrom_of_submit strayScheme {} hsubmit hreceipt rfl⟩

end Sandwich.Chain
