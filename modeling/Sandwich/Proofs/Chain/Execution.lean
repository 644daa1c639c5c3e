import Sandwich.Proofs.Chain.Submission
import Sandwich.Proofs.Chain.Transfer

/-! What can come of carrying out a transaction. First its value moves, unless the
receiver is to fail or the sender has too little, and then the receiver is called.
A call that fails does nothing, and each kind of call that succeeds changes one
part of the state. -/

namespace Sandwich

/-- The account that a transaction calls. The one of number zero stands in for none. -/
def Transaction.callee (t : Transaction) : Address := t.receiver.getD (Octets.zero 20)

namespace Chain

variable (scheme : Scheme) (c : Settings) (sender receiver : Address) (value : UInt256)
  (input : Bytes)

/-- What can come of the call in the state `s`, in which the value has moved. -/
inductive Called (s : State) : Execution → Prop
  | failed : Called s (.silent false s)
  | deployed {salt : Word} {bytecode initData : Bytes} {logs : List Log}
      (hreceiver : receiver = c.factory)
      (hcall : Abi.deploy? input = some (salt, bytecode, initData)) :
      Called s ⟨true, logs, { s with
        code := s.code.set (metamorphicAddress scheme.digest c.factory salt) bytecode }⟩
  | deposited (hfactory : receiver ≠ c.factory) (hreceiver : receiver = c.wrapped)
      (hcall : (Abi.arguments? Abi.depositSelector input).isSome) :
      Called s (.silent true { s with wrapped := credit s.wrapped sender value })
  | transferred {target : Address} {amount : UInt256} {wrapped : Table Address UInt256}
      (hfactory : receiver ≠ c.factory) (hreceiver : receiver = c.wrapped)
      (hcall : Abi.transfer? input = some (target, amount))
      (hmove : transfer s.wrapped sender target amount = some wrapped) :
      Called s (.silent true { s with wrapped })
  | recovered {amount : UInt256} {wrapped : Table Address UInt256}
      (hfactory : receiver ≠ c.factory) (hreceiver : receiver ≠ c.wrapped)
      (hcall : recoveredAmount? input = some amount)
      (hmove : transfer s.wrapped receiver sender amount = some wrapped) :
      Called s (.silent true { s with wrapped })
  | destroyed (hfactory : receiver ≠ c.factory) (hreceiver : receiver ≠ c.wrapped)
      (hcall : input.head? = some Opcode.destroy) :
      Called s (.silent true { s with code := s.code.erase receiver })
  | obeyed (hfactory : receiver ≠ c.factory) (hreceiver : receiver ≠ c.wrapped) :
      Called s (.silent true s)

/-- What can come of carrying out a transaction in the state `s`. -/
inductive Executed (s : State) : Execution → Prop
  | barred (hbar : receiver ∈ s.reverting) : Executed s (.silent false s)
  | unpaid (hbar : receiver ∉ s.reverting)
      (hpay : (s.balances.getD sender 0).toNat < value.toNat) : Executed s (.silent false s)
  | called {balances : Table Address UInt256} {e : Execution} (hbar : receiver ∉ s.reverting)
      (hpay : transfer s.balances sender receiver value = some balances)
      (hcall : Called scheme c sender receiver value input { s with balances } e) : Executed s e

variable (s : State)

theorem called_callFactory (hreceiver : receiver = c.factory) :
    Called scheme c sender receiver value input s (callFactory scheme c input s) := by
  rw [callFactory]
  split
  · exact .failed
  · next hcall => exact .deployed hreceiver hcall

theorem called_callWrapped (hfactory : receiver ≠ c.factory) (hreceiver : receiver = c.wrapped) :
    Called scheme c sender receiver value input s (callWrapped sender value input s) := by
  rw [callWrapped]
  split
  · next hcall => exact .deposited hfactory hreceiver hcall
  · split
    · exact .failed
    · next hcall =>
      split
      · exact .failed
      · next hmove => exact .transferred hfactory hreceiver hcall hmove

theorem called_callContract (hfactory : receiver ≠ c.factory) (hreceiver : receiver ≠ c.wrapped) :
    Called scheme c sender receiver value input s (callContract sender receiver input s) := by
  rw [callContract.eq_def]
  split
  · exact .obeyed hfactory hreceiver
  · next opcode rest =>
    split
    · split
      · exact .failed
      · next hmove =>
        obtain ⟨amount, hcall, hmove⟩ := Option.bind_eq_some_iff.mp hmove
        exact .recovered hfactory hreceiver hcall hmove
    · split
      · next hopcode => exact .destroyed hfactory hreceiver (congrArg some hopcode)
      · split
        · exact .obeyed hfactory hreceiver
        · exact .failed

/-- Whatever a transaction calls, one of these comes of it. -/
theorem executed_execute :
    Executed scheme c sender receiver value input s
      (execute scheme c sender receiver value input s) := by
  rw [execute]
  split
  · next hbar => exact .barred hbar
  · next hbar =>
    split
    · next hpay => exact .unpaid hbar (transfer_eq_none_iff.mp hpay)
    · next balances hpay =>
      refine .called hbar hpay ?_
      simp only
      split
      · next hfactory => exact called_callFactory scheme c sender receiver value input _ hfactory
      · next hfactory =>
        split
        · next hwrapped =>
          exact called_callWrapped scheme c sender receiver value input _ hfactory hwrapped
        · next hwrapped =>
          exact called_callContract scheme c sender receiver value input _ hfactory hwrapped

/-! ### Taking a transaction -/

def receiptOf (signed : SignedTransaction) (e : Execution) : Receipt where
  hash := scheme.hash signed
  success := e.success
  gasUsed := gasUsed signed.transaction.input
  logs := e.logs

def recorded (signed : SignedTransaction) (e : Execution) : State :=
  { e.state with
    receipts := e.state.receipts.set (scheme.hash signed) (receiptOf scheme signed e)
    submitted := e.state.submitted ++ [signed] }

def State.used (s : State) (sender : Address) (t : Transaction) : State :=
  { s with nonces := s.nonces.set sender (t.nonce + 1) }

/-- A raw transaction is refused, and then nothing changes but the faults that are due, or it is
taken, and then it is carried out and put on record. -/
theorem submit_cases (raw : Bytes) :
    (∃ refusal rejectNext, submit scheme c raw s = (.error refusal, { s with rejectNext })) ∨
      ∃ signed sender e, scheme.decode raw = .ok signed ∧ scheme.sender? signed = some sender ∧
        Executed scheme c sender signed.transaction.callee signed.transaction.value
          signed.transaction.input (s.used sender signed.transaction) e ∧
        submit scheme c raw s = (.ok (scheme.hash signed), recorded scheme signed e) := by
  have hsubmission := submission_submit scheme c raw s
  generalize submit scheme c raw s = outcome at hsubmission
  obtain ⟨result, s'⟩ := outcome
  cases hsubmission with
  | refused refusal rejectNext => exact .inl ⟨refusal, rejectNext, rfl⟩
  | @taken signed sender hdecode hsender _ _ =>
    exact .inr ⟨signed, sender, _, hdecode, hsender, executed_execute scheme c sender _ _ _ _, rfl⟩

theorem exists_executed_of_submit {raw : Bytes} {s' : State} {hash : Word}
    (h : submit scheme c raw s = (.ok hash, s')) :
    ∃ signed sender e, scheme.decode raw = .ok signed ∧ scheme.sender? signed = some sender ∧
      Executed scheme c sender signed.transaction.callee signed.transaction.value
        signed.transaction.input (s.used sender signed.transaction) e ∧
      hash = scheme.hash signed ∧ s' = recorded scheme signed e := by
  obtain ⟨refusal, rejectNext, hrefused⟩ | ⟨signed, sender, e, hdecode, hsender, he, htaken⟩ :=
    submit_cases scheme c s raw
  · cases h.symm.trans hrefused
  · cases h.symm.trans htaken
    exact ⟨signed, sender, e, hdecode, hsender, he, rfl, rfl⟩

theorem get?_receipts_recorded (signed : SignedTransaction) (e : Execution) :
    (recorded scheme signed e).receipts.get? (scheme.hash signed) =
      some (receiptOf scheme signed e) := by
  rw [recorded, Table.get?_set, if_pos rfl]

end Chain

end Sandwich
