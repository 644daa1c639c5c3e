import Sandwich.Chain
import Sandwich.Proofs.Operation
import Sandwich.Proofs.Table

/-! What a chain does when it is asked for something. A transaction is either
refused, and then nothing changes but the faults that are due, or taken, and
then it is the next one of its sender. Nothing else touches the nonces and the
transactions taken. -/

namespace Sandwich

/-- Transactions are decoded as ever. Of those in the table the senders and the hashes are given. -/
def Scheme.tabulated (table : List (SignedTransaction × Address × Word)) : Scheme where
  digest := Keccak.hash
  decode := SignedTransaction.decode
  sender? signed := (table.find? (·.1 = signed)).map (·.2.1)
  hash signed := ((table.find? (·.1 = signed)).map (·.2.2)).getD (Octets.zero 32)

namespace Chain

variable (scheme : Scheme) (c : Settings)

/-! ### Carrying out a transaction -/

/-- What transactions do to the state, apart from the record that is kept of them. -/
def SameRecord (s s' : State) : Prop := s'.nonces = s.nonces ∧ s'.submitted = s.submitted

theorem callFactory_sameRecord (input : Bytes) (s : State) :
    SameRecord s (callFactory scheme c input s).state := by
  rw [callFactory]
  split
  · exact ⟨rfl, rfl⟩
  · exact ⟨rfl, rfl⟩

theorem callWrapped_sameRecord (sender : Address) (value : UInt256) (input : Bytes) (s : State) :
    SameRecord s (callWrapped sender value input s).state := by
  rw [callWrapped]
  split
  · exact ⟨rfl, rfl⟩
  · split
    · exact ⟨rfl, rfl⟩
    · split
      · exact ⟨rfl, rfl⟩
      · exact ⟨rfl, rfl⟩

theorem callContract_sameRecord (sender receiver : Address) (input : Bytes) (s : State) :
    SameRecord s (callContract sender receiver input s).state := by
  rw [callContract.eq_def]
  split
  · exact ⟨rfl, rfl⟩
  · repeat' split
    all_goals exact ⟨rfl, rfl⟩

/-- Whatever a transaction calls, the calls do not touch the record. -/
theorem execute_sameRecord (sender receiver : Address) (value : UInt256) (input : Bytes)
    (s : State) : SameRecord s (execute scheme c sender receiver value input s).state := by
  rw [execute]
  split
  · exact ⟨rfl, rfl⟩
  · split
    · exact ⟨rfl, rfl⟩
    · next balances _ =>
      simp only
      split
      · exact callFactory_sameRecord scheme c input { s with balances }
      · split
        · exact callWrapped_sameRecord sender value input { s with balances }
        · exact callContract_sameRecord sender receiver input { s with balances }

/-! ### Taking a transaction -/

/-- What can come of a raw transaction. -/
inductive Submission (raw : Bytes) (s : State) : Except Refusal Word → State → Prop
  | refused (refusal : Refusal) (rejectNext : Option String) :
      Submission raw s (.error refusal) { s with rejectNext }
  | taken {signed : SignedTransaction} {sender : Address}
      (hdecode : scheme.decode raw = .ok signed) (hsender : scheme.sender? signed = some sender)
      (hchain : signed.transaction.chainId = some c.chainId)
      (hturn : signed.transaction.nonce = s.nonces.getD sender 0) :
      Submission raw s (.ok (mine scheme c sender signed s).1) (mine scheme c sender signed s).2

theorem submission_submit (raw : Bytes) (s : State) :
    Submission scheme c raw s (submit scheme c raw s).1 (submit scheme c raw s).2 := by
  rw [submit]
  split
  · exact .refused _ s.rejectNext
  · next signed hdecode =>
    split
    · exact .refused _ s.rejectNext
    · next sender hsender =>
      split
      · exact .refused _ none
      · simp only
        split
        · exact .refused _ s.rejectNext
        · next hchain =>
          split
          · exact .refused _ s.rejectNext
          · next hturn =>
            exact .taken hdecode hsender (Decidable.of_not_not hchain)
              (Decidable.of_not_not hturn)

theorem mine_nonces (sender : Address) (signed : SignedTransaction) (s : State) :
    (mine scheme c sender signed s).2.nonces =
      s.nonces.set sender (signed.transaction.nonce + 1) :=
  (execute_sameRecord scheme c _ _ _ _ _).1

theorem mine_submitted (sender : Address) (signed : SignedTransaction) (s : State) :
    (mine scheme c sender signed s).2.submitted = s.submitted ++ [signed] :=
  congrArg (· ++ [signed]) (execute_sameRecord scheme c _ _ _ _ _).2

/-- A transaction that is refused changes no nonce, no balance, no code, no receipt and no
transaction taken: all that can change is that a scripted refusal is not due any more. -/
theorem answer_sendRaw_of_error {raw : Bytes} {s s' : State} {e : ClientError}
    (h : answer scheme c (.sendRaw raw) s = (.error e, s')) :
    s' = { s with rejectNext := s'.rejectNext } := by
  have hsubmission := submission_submit scheme c raw s
  rw [answer] at h
  generalize submit scheme c raw s = outcome at h hsubmission
  obtain ⟨result, after⟩ := outcome
  cases hsubmission with
  | refused refusal rejectNext =>
    cases h
    rfl
  | taken _ _ _ _ => cases h

def SignedBy (account : Address) (raw : Bytes) : Prop :=
  ∃ signed, scheme.decode raw = .ok signed ∧ scheme.sender? signed = some account

/-! ### The effect of an act -/

def taken? : Operation.Moment → Option SignedTransaction
  | .acted (.query (.sendRaw raw)) (.ok _) => (scheme.decode raw).toOption
  | _ => none

theorem exists_of_taken?_eq_some {scheme : Scheme} {m : Operation.Moment}
    {signed : SignedTransaction} (h : taken? scheme m = some signed) :
    ∃ raw hash, m = Operation.asked (.sendRaw raw) (.ok hash) ∧
      scheme.decode raw = .ok signed := by
  rw [taken?.eq_def] at h
  split at h
  next raw hash =>
    refine ⟨raw, hash, rfl, ?_⟩
    cases hdecode : scheme.decode raw with
    | error e =>
      rw [hdecode] at h
      cases h
    | ok signed' =>
      rw [hdecode] at h
      cases h
      rfl
  next => cases h

/-- What an act can do to the record: nothing, or one transaction is put on it, whose turn it is. -/
inductive Effect (s s' : State) : Option SignedTransaction → Prop
  | quiet (h : SameRecord s s') : Effect s s' none
  | takes {signed : SignedTransaction} {sender : Address}
      (hsender : scheme.sender? signed = some sender)
      (hturn : signed.transaction.nonce = s.nonces.getD sender 0)
      (hnonces : s'.nonces = s.nonces.set sender (signed.transaction.nonce + 1))
      (hsubmitted : s'.submitted = s.submitted ++ [signed]) : Effect s s' (some signed)

theorem Effect.drop_submitted {scheme : Scheme} {s s' : State} {t : Option SignedTransaction}
    (h : Effect scheme s s' t) : s'.submitted.drop s.submitted.length = t.toList := by
  cases h with
  | quiet hsame => rw [hsame.2, List.drop_length, Option.toList_none]
  | takes _ _ _ hsubmitted => rw [hsubmitted, List.drop_left, Option.toList_some]

theorem awaitReceipt_sameRecord (hash : Word) (s : State) :
    SameRecord s (awaitReceipt hash s).2 := by
  rw [awaitReceipt]
  split
  · exact ⟨rfl, rfl⟩
  · split
    · exact ⟨rfl, rfl⟩
    · exact ⟨rfl, rfl⟩

theorem effect_answer_sendRaw (raw : Bytes) (s : State) :
    Effect scheme s (answer scheme c (.sendRaw raw) s).2
      (taken? scheme (.acted (.query (.sendRaw raw)) (answer scheme c (.sendRaw raw) s).1)) := by
  have hsubmission := submission_submit scheme c raw s
  rw [answer]
  generalize submit scheme c raw s = outcome at hsubmission
  obtain ⟨result, after⟩ := outcome
  cases hsubmission with
  | refused refusal rejectNext => exact .quiet ⟨rfl, rfl⟩
  | @taken signed sender hdecode hsender _ hturn =>
    have htaken : (scheme.decode raw).toOption = some signed := by
      rw [hdecode]
      rfl
    change Effect scheme s _ (scheme.decode raw).toOption
    rw [htaken]
    exact .takes hsender hturn (mine_nonces scheme c sender signed s)
      (mine_submitted scheme c sender signed s)

theorem effect_answer (q : Query) (s : State) :
    Effect scheme s (answer scheme c q s).2
      (taken? scheme (.acted (.query q) (answer scheme c q s).1)) := by
  cases q with
  | balance _ | transactionCount _ | gasPrice | maxPriorityFee | chainId | call _ _ =>
    exact .quiet ⟨rfl, rfl⟩
  | awaitReceipt hash => exact .quiet (awaitReceipt_sameRecord hash s)
  | sendRaw raw => exact effect_answer_sendRaw scheme c raw s

theorem effect_reply (signer : Signer) (act : Act) (s : State) :
    Effect scheme s (reply scheme c signer act s).2
      (taken? scheme (.acted act (reply scheme c signer act s).1)) := by
  cases act with
  | sign _ => exact .quiet ⟨rfl, rfl⟩
  | query q => exact effect_answer scheme c q s

end Chain

end Sandwich
