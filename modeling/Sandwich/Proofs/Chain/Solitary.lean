import Sandwich.Proofs.Chain.Execution
import Sandwich.Proofs.Chain.Orderly

/-! Operations on a chain that nobody else uses. An operation goes through its parts one
after another, each in the state that the part before it has left. Where no fault is
due, the sending of a transaction that gets signed ends in what becomes of the
transaction. -/

namespace Sandwich.Chain

open Operation

variable {scheme : Scheme} {c : Settings} {signer : Signer} {α β : Type}

/-! ### Parts of an operation -/

/-- On the chain in the state `s`, the operation goes through `ms` to `result` and leaves `s'`. -/
def Yields (scheme : Scheme) (c : Settings) (signer : Signer) (op : Operation α) (s : State)
    (ms : List Moment) (result : Except Failure α) (s' : State) : Prop :=
  op.run.run (reply scheme c signer) s = ⟨ms, result, s'⟩

variable {s s' s'' : State} {ms ns : List Moment}

theorem yields_pure (a : α) (s : State) : Yields scheme c signer (pure a) s [] (.ok a) s := rfl

theorem yields_throw (failure : Failure) (s : State) :
    Yields scheme c signer (throw failure : Operation α) s [] (.error failure) s := rfl

theorem Yields.bind {x : Operation α} {f : α → Operation β} {a : α} {result : Except Failure β}
    (h : Yields scheme c signer x s ms (.ok a) s')
    (hf : Yields scheme c signer (f a) s' ns result s'') :
    Yields scheme c signer (x >>= f) s (ms ++ ns) result s'' := by
  rw [Yields, ExceptT.run_bind]
  refine (Program.run_bind _ _ _ s).trans ?_
  rw [Yields] at h hf
  simp only [h, hf]

theorem Yields.failed_bind {x : Operation α} {f : α → Operation β} {failure : Failure}
    (h : Yields scheme c signer x s ms (.error failure) s') :
    Yields scheme c signer (x >>= f) s ms (.error failure) s' := by
  rw [Yields, ExceptT.run_bind]
  refine (Program.run_bind _ _ _ s).trans ?_
  rw [Yields] at h
  simp only [h, Program.run, pure, List.append_nil]

theorem Yields.report_bind {op : Operation α} {result : Except Failure α} (event : Event)
    (h : Yields scheme c signer op s ms result s') :
    Yields scheme c signer (report event >>= fun _ => op) s (.reported event :: ms) result s' := by
  have hreport : Yields scheme c signer (report event) s [.reported event] (.ok ()) s := rfl
  exact hreport.bind h

theorem yields_query {q : Query} {onError : ClientError → Failure} {answered : q.Answer}
    (h : answer scheme c q s = (.ok answered, s')) :
    Yields scheme c signer (query q onError) s [asked q (.ok answered)] (.ok answered) s' := by
  change Program.Outcome.mk [asked q (answer scheme c q s).1]
    ((answer scheme c q s).1.mapError onError) (answer scheme c q s).2 = _
  rw [h]
  rfl

theorem yields_sign {request : Transaction.Request} {raw : Bytes}
    (h : signer.sign request = .ok raw) (s : State) :
    Yields scheme c signer (sign request) s [signed request (.ok raw)] (.ok raw) s := by
  change Program.Outcome.mk [signed request (signer.sign request)]
    ((signer.sign request).mapError Failure.signing) s = _
  rw [h]
  rfl

/-! ### Fees -/

theorem yields_resolveTip (given cap : Option UInt128) (s : State) :
    Yields scheme c signer (FeePolicy.resolveTip given) s
      (FeePolicy.tipReads (.dynamic given cap) c.priorityFee) (.ok (given.getD c.priorityFee))
      s := by
  cases given <;> rfl

theorem yields_resolveCap (given cap : Option UInt128) (s : State) :
    Yields scheme c signer (FeePolicy.resolveCap cap (given.getD c.priorityFee)) s
      (FeePolicy.priceReads (.dynamic given cap) c.gasPrice)
      ((FeePolicy.dynamic given cap).settle c.priorityFee c.gasPrice) s := by
  cases cap with
  | none => cases given <;> rfl
  | some cap =>
    rw [FeePolicy.resolveCap, FeePolicy.settle]
    split
    · cases given <;> rfl
    · cases given <;> rfl

theorem yields_resolve {policy : FeePolicy} {fees : Fees}
    (h : policy.settle c.priorityFee c.gasPrice = .ok fees) (s : State) :
    Yields scheme c signer policy.resolve s (policy.reads c.priorityFee c.gasPrice) (.ok fees)
      s := by
  rw [← h]
  match policy with
  | .legacy none | .legacy (some _) => rfl
  | .dynamic given cap =>
    rw [FeePolicy.resolve_dynamic]
    exact (yields_resolveTip given cap s).bind (yields_resolveCap given cap s)

/-! ### Where no fault is due -/

structure Faultless (s : State) : Prop where
  reject : s.rejectNext = none
  lose : s.loseNextReceipt = none

structure SameFaults (s s' : State) : Prop where
  reject : s'.rejectNext = s.rejectNext
  lose : s'.loseNextReceipt = s.loseNextReceipt
  reverting : s'.reverting = s.reverting

theorem Faultless.of_same (h : Faultless s) (hsame : SameFaults s s') : Faultless s' :=
  ⟨hsame.reject.trans h.reject, hsame.lose.trans h.lose⟩

theorem SameFaults.trans (h : SameFaults s s') (h' : SameFaults s' s'') : SameFaults s s'' :=
  ⟨h'.reject.trans h.reject, h'.lose.trans h.lose, h'.reverting.trans h.reverting⟩

theorem Executed.sameFaults {sender receiver : Address} {value : UInt256} {input : Bytes}
    {e : Execution} (h : Executed scheme c sender receiver value input s e) :
    SameFaults s e.state := by
  cases h with
  | barred _ | unpaid _ _ => exact ⟨rfl, rfl, rfl⟩
  | called _ _ hcall => cases hcall <;> exact ⟨rfl, rfl, rfl⟩

theorem submit_eq_recorded {raw : Bytes} {signed : SignedTransaction} {sender : Address}
    (hdecode : scheme.decode raw = .ok signed) (hsender : scheme.sender? signed = some sender)
    (hreject : s.rejectNext = none) (hchain : signed.transaction.chainId = some c.chainId)
    (hturn : signed.transaction.nonce = s.nonces.getD sender 0) :
    submit scheme c raw s = (.ok (scheme.hash signed), recorded scheme signed
      (execute scheme c sender signed.transaction.callee signed.transaction.value
        signed.transaction.input (s.used sender signed.transaction))) := by
  simp only [submit, hdecode, hsender, hreject, hchain, hturn, ne_eq, not_true_eq_false, if_false]
  rfl

theorem awaitReceipt_eq {hash : Word} {receipt : Receipt} (hlose : s.loseNextReceipt = none)
    (hreceipt : s.receipts.get? hash = some receipt) : awaitReceipt hash s = (.ok receipt, s) := by
  simp only [awaitReceipt, hlose, hreceipt]

/-! ### The sending of a transaction -/

/-- How a sending ends whose transaction has this receipt. -/
def verdict (hash : Word) (receipt : Receipt) : Event × Except Failure Receipt :=
  if receipt.success then (.confirmed hash receipt.gasUsed, .ok receipt)
  else (.reverted hash receipt.gasUsed, .error (.reverted hash receipt.gasUsed))

theorem yields_verdict (hash : Word) (receipt : Receipt) (s : State) :
    Yields scheme c signer
      (if receipt.success then do
        report (.confirmed hash receipt.gasUsed)
        return receipt
      else do
        report (.reverted hash receipt.gasUsed)
        throw (.reverted hash receipt.gasUsed)) s
      [.reported (verdict hash receipt).1] (verdict hash receipt).2 s := by
  rw [verdict]
  split
  · exact (yields_pure receipt s).report_bind _
  · exact (yields_throw _ s).report_bind _

/-- What comes about when the account sends a transaction that is signed as `signed`. -/
def answers (scheme : Scheme) (c : Settings) (account : Address) (s : State) (fees : Fees)
    (raw : Bytes) (signed : SignedTransaction) (e : Execution) : Dispatch.Answers where
  nonce := s.nonces.getD account 0
  tip := c.priorityFee
  gasPrice := c.gasPrice
  fees
  raw
  hash := scheme.hash signed
  receipt := receiptOf scheme signed e

variable {d : Dispatch} {fees : Fees} {raw : Bytes} {own : SignedTransaction}

/-- The sending of a transaction from the signer's account, if the transaction is read as `own`. -/
theorem yields_send (hs : Faultless s)
    (hfees : d.policy.settle c.priorityFee c.gasPrice = .ok fees)
    (hsign : signer.sign (d.request (ownSequencer c signer)
      (s.nonces.getD signer.address 0) fees) = .ok raw)
    (hdecode : scheme.decode raw = .ok own) (hsender : scheme.sender? own = some signer.address)
    (hown : own.transaction = d.transaction (ownSequencer c signer)
      (s.nonces.getD signer.address 0) fees) :
    let e := execute scheme c signer.address d.receiver d.value d.input
      (s.used signer.address own.transaction)
    let a := answers scheme c signer.address s fees raw own e
    Yields scheme c signer (d.send (ownSequencer c signer)) s
      (d.sent (ownSequencer c signer) a ++ [asked (.awaitReceipt a.hash) (.ok a.receipt),
        .reported (verdict a.hash a.receipt).1])
      (verdict a.hash a.receipt).2 (recorded scheme own e) := by
  intro e a
  have hsubmit : submit scheme c raw s = (.ok (scheme.hash own), recorded scheme own e) := by
    have hchain : own.transaction.chainId = some c.chainId := by rw [hown]; rfl
    have hturn : own.transaction.nonce = s.nonces.getD signer.address 0 := by rw [hown]; rfl
    have hcallee : own.transaction.callee = d.receiver := by rw [hown]; rfl
    have hvalue : own.transaction.value = d.value := by rw [hown]; rfl
    have hinput : own.transaction.input = d.input := by rw [hown]; rfl
    rw [submit_eq_recorded hdecode hsender hs.reject hchain hturn, hcallee, hvalue, hinput]
  have hsubmitted : answer scheme c (.sendRaw raw) s =
      (.ok (scheme.hash own), recorded scheme own e) := by
    rw [answer, hsubmit]
    rfl
  have hfaults := (executed_execute scheme c signer.address d.receiver d.value d.input
    (s.used signer.address own.transaction)).sameFaults
  have hawait : answer scheme c (.awaitReceipt (scheme.hash own)) (recorded scheme own e) =
      (.ok a.receipt, recorded scheme own e) :=
    awaitReceipt_eq (hfaults.lose.trans hs.lose) (get?_receipts_recorded scheme own e)
  have hmoments : d.sent (ownSequencer c signer) a ++ [asked (.awaitReceipt a.hash) (.ok a.receipt),
        .reported (verdict a.hash a.receipt).1] =
      [asked (.transactionCount signer.address) (.ok a.nonce)] ++
      (d.policy.reads c.priorityFee c.gasPrice ++
      (.reported (.building signer.address d.receiver a.nonce fees d.gasLimit d.value
        d.input.length) ::
      ([signed (d.request (ownSequencer c signer) a.nonce fees) (.ok raw)] ++
      (.reported (.signed raw) ::
      ([asked (.sendRaw raw) (.ok a.hash)] ++
      (.reported (.submitted a.hash a.nonce) ::
      ([asked (.awaitReceipt a.hash) (.ok a.receipt)] ++
      [.reported (verdict a.hash a.receipt).1]))))))) := by
    simp [Dispatch.sent, Dispatch.ready, Dispatch.prepared, a, answers]
  rw [hmoments, Dispatch.send, Sequencer.sendValue]
  refine (yields_query rfl).bind ?_
  refine (yields_resolve hfees s).bind ?_
  refine Yields.report_bind _ ?_
  rw [Dispatch.ofTransaction_eq_request]
  refine (yields_sign hsign s).bind ?_
  refine Yields.report_bind _ ?_
  refine (yields_query hsubmitted).bind ?_
  refine Yields.report_bind _ ?_
  refine (yields_query hawait).bind ?_
  exact yields_verdict a.hash a.receipt _

/-- The account has used one more nonce, and what is scripted to fail is the same. -/
structure Advanced (account : Address) (s s' : State) : Prop where
  nonce : s'.nonces.getD account 0 = s.nonces.getD account 0 + 1
  faults : SameFaults s s'

theorem advanced_recorded {account receiver : Address} {value : UInt256} {input : Bytes}
    (hturn : own.transaction.nonce = s.nonces.getD account 0) :
    Advanced account s (recorded scheme own
      (execute scheme c account receiver value input (s.used account own.transaction))) where
  nonce := by
    have hnonces := (execute_sameRecord scheme c account receiver value input
      (s.used account own.transaction)).1
    rw [recorded, hnonces, State.used, Table.getD_set, if_pos rfl, hturn]
  faults := by
    obtain ⟨hreject, hlose, hreverting⟩ := (executed_execute scheme c account receiver value input
      (s.used account own.transaction)).sameFaults
    exact ⟨hreject, hlose, hreverting⟩

/-- What a signer signs for its account is carried out. -/
theorem exists_yields_send (hread : signer.ReadBack scheme) (hs : Faultless s)
    (hfees : d.policy.settle c.priorityFee c.gasPrice = .ok fees)
    (hsign : signer.sign (d.request (ownSequencer c signer)
      (s.nonces.getD signer.address 0) fees) = .ok raw) :
    ∃ own, own.transaction = d.transaction (ownSequencer c signer)
        (s.nonces.getD signer.address 0) fees ∧
      let e := execute scheme c signer.address d.receiver d.value d.input
        (s.used signer.address own.transaction)
      let a := answers scheme c signer.address s fees raw own e
      Yields scheme c signer (d.send (ownSequencer c signer)) s
        (d.sent (ownSequencer c signer) a ++ [asked (.awaitReceipt a.hash) (.ok a.receipt),
          .reported (verdict a.hash a.receipt).1])
        (verdict a.hash a.receipt).2 (recorded scheme own e) ∧
      Advanced signer.address s (recorded scheme own e) := by
  obtain ⟨own, hdecode, hcomplete, hsender⟩ := hread _ _ hsign
  rw [Dispatch.complete_request] at hcomplete
  have hown := (Except.ok.inj hcomplete).symm
  exact ⟨own, hown, yields_send hs hfees hsign hdecode hsender hown,
    advanced_recorded (by rw [hown]; rfl)⟩

end Sandwich.Chain
