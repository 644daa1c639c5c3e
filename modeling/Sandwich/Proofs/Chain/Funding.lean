import Sandwich.Proofs.Chain.Conservation
import Sandwich.Proofs.Chain.Metamorphosis
import Sandwich.Proofs.Flow

/-! Contracts that are funded. The amount is wrapped in one transaction and moved to the
contract in a second one. Where no fault is due only the first of them can fail, for want
of money, so that either the whole amount arrives or nothing has moved. -/

namespace Sandwich.Chain

open Operation

variable {scheme : Scheme} {c : Settings} {signer : Signer} {s : State}

/-! ### Transactions of an account -/

/-- The transaction is the dispatch with `nonce`, whatever the fees. -/
def Carries (c : Settings) (signer : Signer) (nonce : UInt64) (d : Dispatch)
    (own : SignedTransaction) : Prop :=
  ∃ fees, own.transaction = d.transaction (ownSequencer c signer) nonce fees

/-- In the state `s` the account sends the dispatch in the transaction `own`, of which `e` comes. -/
structure Sends (scheme : Scheme) (c : Settings) (signer : Signer) (d : Dispatch) (s : State)
    (own : SignedTransaction) (e : Execution) : Prop where
  carries : Carries c signer (s.nonces.getD signer.address 0) d own
  executed : execute scheme c signer.address d.receiver d.value d.input
    (s.used signer.address own.transaction) = e

variable {d : Dispatch} {own : SignedTransaction} {e : Execution}

theorem Sends.advanced (h : Sends scheme c signer d s own e) :
    Advanced signer.address s (recorded scheme own e) := by
  obtain ⟨⟨fees, htransaction⟩, rfl⟩ := h
  exact advanced_recorded (by rw [htransaction]; rfl)

theorem Sends.submitted (h : Sends scheme c signer d s own e) :
    (recorded scheme own e).submitted = s.submitted ++ [own] := by
  obtain ⟨-, rfl⟩ := h
  have hrecord := execute_sameRecord scheme c signer.address d.receiver d.value d.input
    (s.used signer.address own.transaction)
  rw [recorded, hrecord.2]
  rfl

theorem Sends.not_mem_reverting (h : Sends scheme c signer d s own e) {a : Address}
    (ha : a ∉ s.reverting) : a ∉ (recorded scheme own e).reverting := by
  rwa [h.advanced.faults.reverting]

/-- How the sending ends of a transaction of which `e` comes. -/
theorem verdict_receiptOf (scheme : Scheme) (own : SignedTransaction) (e : Execution) :
    (verdict (scheme.hash own) (receiptOf scheme own e)).2 =
      if e.success then .ok (receiptOf scheme own e)
      else .error (.reverted (scheme.hash own) (receiptOf scheme own e).gasUsed) := by
  rw [verdict, receiptOf]
  split <;> rfl

theorem exists_sends (hread : signer.ReadBack scheme) (hs : Faultless s)
    (hsigned : Signable c signer (s.nonces.getD signer.address 0) d) :
    ∃ own e ms, Sends scheme c signer d s own e ∧
      Yields scheme c signer (d.send (ownSequencer c signer)) s ms
        (if e.success then .ok (receiptOf scheme own e)
          else .error (.reverted (scheme.hash own) (receiptOf scheme own e).gasUsed))
        (recorded scheme own e) := by
  obtain ⟨fees, raw, hfees, hsign⟩ := hsigned
  obtain ⟨own, htransaction, hsend, -⟩ := exists_yields_send hread hs hfees hsign
  rw [answers, verdict_receiptOf] at hsend
  exact ⟨own, _, _, ⟨⟨fees, htransaction⟩, rfl⟩, hsend⟩

/-! ### What the wrapped asset does -/

theorem execute_deposit (scheme : Scheme) (hfactory : c.wrapped ≠ c.factory)
    (hbar : c.wrapped ∉ s.reverting) (sender : Address) (value : UInt256) :
    execute scheme c sender c.wrapped value Abi.deposit s =
      if value.toNat ≤ (s.balances.getD sender 0).toNat then
        .silent true { s with
          balances := credit (debit s.balances sender value) c.wrapped value
          wrapped := credit s.wrapped sender value }
      else .silent false s := by
  have hdeposit : (Abi.arguments? Abi.depositSelector Abi.deposit).isSome := rfl
  rw [execute, if_neg hbar]
  by_cases h : value.toNat ≤ (s.balances.getD sender 0).toNat
  · rw [if_pos h, transfer_eq_some_iff.mpr ⟨h, rfl⟩]
    simp only [if_neg hfactory, if_true, callWrapped, hdeposit]
    rfl
  · rw [if_neg h, transfer_eq_none_iff.mpr (not_le.mp h)]

theorem execute_transfer (scheme : Scheme) (hfactory : c.wrapped ≠ c.factory)
    (hbar : c.wrapped ∉ s.reverting) (sender receiver : Address) (amount : UInt256) :
    execute scheme c sender c.wrapped 0 (Abi.transfer receiver amount) s =
      if amount.toNat ≤ (s.wrapped.getD sender 0).toNat then
        .silent true { s with
          balances := credit (debit s.balances sender 0) c.wrapped 0
          wrapped := credit (debit s.wrapped sender amount) receiver amount }
      else .silent false { s with
        balances := credit (debit s.balances sender 0) c.wrapped 0 } := by
  have hother : Abi.arguments? Abi.depositSelector (Abi.transfer receiver amount) = none := by
    rw [Abi.transfer, List.append_assoc]
    exact Abi.arguments?_eq_none rfl (by decide)
  rw [execute, if_neg hbar, transfer_eq_some_iff.mpr ⟨Nat.zero_le _, rfl⟩]
  simp only [if_neg hfactory, if_true, callWrapped, hother, Option.isSome_none, Bool.false_eq_true,
    if_false, Abi.transfer?_transfer]
  by_cases h : amount.toNat ≤ (s.wrapped.getD sender 0).toNat
  · rw [if_pos h, transfer_eq_some_iff.mpr ⟨h, rfl⟩]
  · rw [if_neg h, transfer_eq_none_iff.mpr (not_le.mp h)]

/-! ### The ways in which funding can go -/

variable {f : Flows} {contract : Address} {amount : UInt256}

def wrapping (f : Flows) (amount : UInt256) : Dispatch :=
  Flow.dispatch f f.wrapped Abi.deposit amount

def transferring (f : Flows) (contract : Address) (amount : UInt256) : Dispatch :=
  Flow.dispatch f f.wrapped (Abi.transfer contract amount) 0

/-- What can come of funding a contract, with the state that is left. -/
inductive Funds (scheme : Scheme) (c : Settings) (signer : Signer) (f : Flows) (contract : Address)
    (amount : UInt256) (s : State) : Except Failure Funding → State → Prop
  | refused {wrap : SignedTransaction} {e : Execution}
      (hwrap : Sends scheme c signer (wrapping f amount) s wrap e) (hfailed : e.success = false) :
      Funds scheme c signer f contract amount s
        (.error (.reverted (scheme.hash wrap) (receiptOf scheme wrap e).gasUsed))
        (recorded scheme wrap e)
  | stranded {wrap transfer : SignedTransaction} {e e' : Execution}
      (hwrap : Sends scheme c signer (wrapping f amount) s wrap e) (hsuccess : e.success = true)
      (htransfer : Sends scheme c signer (transferring f contract amount) (recorded scheme wrap e)
        transfer e') (hfailed : e'.success = false) :
      Funds scheme c signer f contract amount s
        (.error (.reverted (scheme.hash transfer) (receiptOf scheme transfer e').gasUsed))
        (recorded scheme transfer e')
  | funded {wrap transfer : SignedTransaction} {e e' : Execution}
      (hwrap : Sends scheme c signer (wrapping f amount) s wrap e) (hsuccess : e.success = true)
      (htransfer : Sends scheme c signer (transferring f contract amount) (recorded scheme wrap e)
        transfer e') (hsuccess' : e'.success = true) :
      Funds scheme c signer f contract amount s
        (.ok ⟨receiptOf scheme wrap e, receiptOf scheme transfer e'⟩)
        (recorded scheme transfer e')

theorem funds_run (hread : signer.ReadBack scheme) (hs : Faultless s)
    (hf : f.sequencer = ownSequencer c signer)
    (hwrap : Signable c signer (s.nonces.getD signer.address 0) (wrapping f amount))
    (htransfer : Signable c signer (s.nonces.getD signer.address 0 + 1)
      (transferring f contract amount)) :
    let o := (f.fund contract amount).run.run (reply scheme c signer) s
    Funds scheme c signer f contract amount s o.result o.state := by
  suffices h : ∃ ms result s', Yields scheme c signer (f.fund contract amount) s ms result s' ∧
      Funds scheme c signer f contract amount s result s' by
    obtain ⟨ms, result, s', hyields, hfunds⟩ := h
    rw [Yields] at hyields
    rw [hyields]
    exact hfunds
  obtain ⟨wrap, e, ms, hwrapped, hyields⟩ := exists_sends hread hs hwrap
  have hadvanced := hwrapped.advanced
  rw [← hadvanced.nonce] at htransfer
  obtain ⟨transfer, e', ms', htransferred, hyields'⟩ :=
    exists_sends hread (hs.of_same hadvanced.faults) htransfer
  rw [← hf] at hyields hyields'
  cases hsuccess : e.success with
  | false =>
    rw [hsuccess] at hyields
    exact ⟨_, _, _, Yields.report_bind _ hyields.failed_bind, .refused hwrapped hsuccess⟩
  | true =>
    rw [hsuccess] at hyields
    cases hsuccess' : e'.success with
    | false =>
      rw [hsuccess'] at hyields'
      exact ⟨_, _, _,
        Yields.report_bind _ (hyields.bind (Yields.report_bind _ hyields'.failed_bind)),
        .stranded hwrapped hsuccess htransferred hsuccess'⟩
    | true =>
      rw [hsuccess'] at hyields'
      exact ⟨_, _, _,
        Yields.report_bind _
          (hyields.bind (Yields.report_bind _ (hyields'.bind (yields_pure _ _)))),
        .funded hwrapped hsuccess htransferred hsuccess'⟩

/-! ### What funding comes to -/

/-- The contract has been funded: the amount has gone from the account to the wrapped asset, and
as much of that to the contract. The equations are of whole numbers. -/
structure Funded (scheme : Scheme) (c : Settings) (signer : Signer) (f : Flows) (contract : Address)
    (amount : UInt256) (s s' : State) (funding : Funding) : Prop where
  confirmed : funding.wrap.success = true ∧ funding.transfer.success = true
  accepted : ∃ wrap transfer, s'.submitted = s.submitted ++ [wrap, transfer] ∧
    Carries c signer (s.nonces.getD signer.address 0) (wrapping f amount) wrap ∧
    Carries c signer (s.nonces.getD signer.address 0 + 1) (transferring f contract amount)
      transfer ∧
    funding.wrap.hash = scheme.hash wrap ∧ funding.transfer.hash = scheme.hash transfer
  native : Moved s.balances s'.balances signer.address c.wrapped amount.toNat
  wrapped : Added s.wrapped s'.wrapped contract amount.toNat
  code : s'.code = s.code

/-- The contract has not been funded: one transaction was accepted, and it has changed nothing. -/
structure Unfunded (scheme : Scheme) (c : Settings) (signer : Signer) (f : Flows)
    (amount : UInt256) (s s' : State) (failure : Failure) : Prop where
  accepted : ∃ wrap gasUsed, s'.submitted = s.submitted ++ [wrap] ∧
    Carries c signer (s.nonces.getD signer.address 0) (wrapping f amount) wrap ∧
    failure = .reverted (scheme.hash wrap) gasUsed
  native : s'.balances = s.balances
  wrapped : s'.wrapped = s.wrapped
  code : s'.code = s.code

/-- Nothing of value is paid to the wrapped asset for moving an amount. -/
theorem getD_credit_debit_zero (balances : Table Address UInt256) (source target a : Address) :
    (credit (debit balances source 0) target 0).getD a 0 = balances.getD a 0 :=
  getD_transfer_eq (transfer_eq_some_iff.mpr ⟨Nat.zero_le _, rfl⟩) (.inl rfl) a

section

variable (hfactory : c.wrapped ≠ c.factory) (hwrapped : f.wrapped = c.wrapped)
  (hbar : c.wrapped ∉ s.reverting) {wrap transfer : SignedTransaction} {e e' : Execution}

include hfactory hwrapped hbar

theorem Sends.wrapping_cases (h : Sends scheme c signer (wrapping f amount) s wrap e) :
    amount.toNat ≤ (s.balances.getD signer.address 0).toNat ∧
        e = .silent true { s.used signer.address wrap.transaction with
          balances := credit (debit s.balances signer.address amount) c.wrapped amount
          wrapped := credit s.wrapped signer.address amount } ∨
      (s.balances.getD signer.address 0).toNat < amount.toNat ∧
        e = .silent false (s.used signer.address wrap.transaction) := by
  have hexecuted := h.executed
  simp only [wrapping, Flow.dispatch, hwrapped] at hexecuted
  rw [execute_deposit (s := s.used signer.address wrap.transaction) scheme hfactory hbar]
    at hexecuted
  split at hexecuted
  next henough => exact .inl ⟨henough, hexecuted.symm⟩
  next hpoor => exact .inr ⟨not_le.mp hpoor, hexecuted.symm⟩

theorem Sends.transferring_cases
    (h : Sends scheme c signer (transferring f contract amount) s transfer e) :
    amount.toNat ≤ (s.wrapped.getD signer.address 0).toNat ∧
        e = .silent true { s.used signer.address transfer.transaction with
          balances := credit (debit s.balances signer.address 0) c.wrapped 0
          wrapped := credit (debit s.wrapped signer.address amount) contract amount } ∨
      (s.wrapped.getD signer.address 0).toNat < amount.toNat ∧
        e = .silent false { s.used signer.address transfer.transaction with
          balances := credit (debit s.balances signer.address 0) c.wrapped 0 } := by
  have hexecuted := h.executed
  simp only [transferring, Flow.dispatch, hwrapped] at hexecuted
  rw [execute_transfer (s := s.used signer.address transfer.transaction) scheme hfactory hbar]
    at hexecuted
  split at hexecuted
  next henough => exact .inl ⟨henough, hexecuted.symm⟩
  next hpoor => exact .inr ⟨not_le.mp hpoor, hexecuted.symm⟩

/-- What both transactions leave when they have succeeded. -/
theorem money_of_sends (hwrap : Sends scheme c signer (wrapping f amount) s wrap e)
    (hsuccess : e.success = true)
    (htransfer : Sends scheme c signer (transferring f contract amount) (recorded scheme wrap e)
      transfer e') (hsuccess' : e'.success = true) :
    amount.toNat ≤ (s.balances.getD signer.address 0).toNat ∧
      e'.state.balances = credit (debit (credit (debit s.balances signer.address amount)
        c.wrapped amount) signer.address 0) c.wrapped 0 ∧
      e'.state.wrapped =
        credit (debit (credit s.wrapped signer.address amount) signer.address amount)
          contract amount ∧
      e'.state.code = s.code := by
  have hbar' := hwrap.not_mem_reverting hbar
  obtain ⟨henough, rfl⟩ | ⟨-, rfl⟩ := hwrap.wrapping_cases hfactory hwrapped hbar
  · obtain ⟨-, rfl⟩ | ⟨-, rfl⟩ := htransfer.transferring_cases hfactory hwrapped hbar'
    · exact ⟨henough, rfl, rfl, rfl⟩
    · cases hsuccess'
  · cases hsuccess

end

theorem added_of_room {balances : Table Address UInt256} (account : Address)
    (hroom : (balances.getD contract 0).toNat + amount.toNat < bitBound 256) :
    Added balances (credit (debit (credit balances account amount) account amount) contract amount)
      contract amount.toNat := by
  intro a
  have hsame := getD_debit_credit balances account amount
  have hcredit := toNat_getD_credit_of_room (by rwa [hsame]) a
  rwa [hsame] at hcredit

theorem funded_of_sends (hfactory : c.wrapped ≠ c.factory) (hwrapped : f.wrapped = c.wrapped)
    (hbar : c.wrapped ∉ s.reverting) {wrap transfer : SignedTransaction} {e e' : Execution}
    (hwrap : Sends scheme c signer (wrapping f amount) s wrap e) (hsuccess : e.success = true)
    (htransfer : Sends scheme c signer (transferring f contract amount) (recorded scheme wrap e)
      transfer e') (hsuccess' : e'.success = true)
    (hnative : (s.balances.getD c.wrapped 0).toNat + amount.toNat < bitBound 256)
    (hroom : (s.wrapped.getD contract 0).toNat + amount.toNat < bitBound 256) :
    amount.toNat ≤ (s.balances.getD signer.address 0).toNat ∧
      Funded scheme c signer f contract amount s (recorded scheme transfer e')
        ⟨receiptOf scheme wrap e, receiptOf scheme transfer e'⟩ := by
  obtain ⟨henough, hbalances, hmoved, hcode⟩ :=
    money_of_sends hfactory hwrapped hbar hwrap hsuccess htransfer hsuccess'
  have hcarries := htransfer.carries
  have hsubmitted := htransfer.submitted
  rw [hwrap.advanced.nonce] at hcarries
  rw [hwrap.submitted, List.append_assoc, List.singleton_append] at hsubmitted
  refine ⟨henough, ⟨hsuccess, hsuccess'⟩,
    ⟨wrap, transfer, hsubmitted, hwrap.carries, hcarries, rfl, rfl⟩, ?_, ?_, hcode⟩
  · intro a
    have hmoved := moved_of_room henough hnative a
    rwa [← getD_credit_debit_zero _ signer.address c.wrapped a, ← hbalances] at hmoved
  · rw [recorded, hmoved]
    exact added_of_room signer.address hroom

/-- A deposit that succeeds has reached the wrapped asset. -/
theorem Sends.reached (hwrapped : f.wrapped = c.wrapped) {wrap : SignedTransaction} {e : Execution}
    (h : Sends scheme c signer (wrapping f amount) s wrap e) (hsuccess : e.success = true) :
    c.wrapped ≠ c.factory ∧ c.wrapped ∉ s.reverting := by
  have hexecuted := executed_execute scheme c signer.address c.wrapped amount Abi.deposit
    (s.used signer.address wrap.transaction)
  have he := h.executed
  simp only [wrapping, Flow.dispatch, hwrapped] at he
  rw [he] at hexecuted
  cases hexecuted with
  | barred _ | unpaid _ _ => cases hsuccess
  | called hbar _ hcall =>
    refine ⟨?_, hbar⟩
    cases hcall with
    | failed => cases hsuccess
    | deployed _ hcall => cases hcall
    | deposited hfactory _ _ | transferred hfactory _ _ _ | recovered hfactory _ _ _
    | destroyed hfactory _ _ | obeyed hfactory _ => exact hfactory

/-- However it is that funding has succeeded, the contract has the amount. -/
theorem Funds.enriched (hwrapped : f.wrapped = c.wrapped) {funding : Funding} {s' : State}
    (h : Funds scheme c signer f contract amount s (.ok funding) s')
    (hroom : (s.wrapped.getD contract 0).toNat + amount.toNat < bitBound 256) :
    Added s.wrapped s'.wrapped contract amount.toNat ∧ SameFaults s s' ∧
      s'.nonces.getD signer.address 0 = s.nonces.getD signer.address 0 + 1 + 1 := by
  cases h with
  | funded hwrap hsuccess htransfer hsuccess' =>
    obtain ⟨hfactory, hbar⟩ := hwrap.reached hwrapped hsuccess
    obtain ⟨-, -, hmoved, -⟩ :=
      money_of_sends hfactory hwrapped hbar hwrap hsuccess htransfer hsuccess'
    have hadvanced := hwrap.advanced
    have hadvanced' := htransfer.advanced
    refine ⟨?_, hadvanced.faults.trans hadvanced'.faults, ?_⟩
    · rw [recorded, hmoved]
      exact added_of_room signer.address hroom
    · rw [hadvanced'.nonce, hadvanced.nonce]

/-- Where no fault is due, an account funds a contract with an amount that it has, and otherwise
nothing moves. Two transactions are accepted or one, and the second of two does not fail. -/
theorem fund_exact (scheme : Scheme) (c : Settings) (signer : Signer) (f : Flows)
    (contract : Address) (amount : UInt256) (s : State) (hread : signer.ReadBack scheme)
    (hs : Faultless s) (hbar : c.wrapped ∉ s.reverting) (hf : f.sequencer = ownSequencer c signer)
    (hwrapped : f.wrapped = c.wrapped) (hfactory : c.wrapped ≠ c.factory)
    (hnative : (s.balances.getD c.wrapped 0).toNat + amount.toNat < bitBound 256)
    (hheld : (s.wrapped.getD signer.address 0).toNat + amount.toNat < bitBound 256)
    (hroom : (s.wrapped.getD contract 0).toNat + amount.toNat < bitBound 256)
    (hwrap : Signable c signer (s.nonces.getD signer.address 0) (wrapping f amount))
    (htransfer : Signable c signer (s.nonces.getD signer.address 0 + 1)
      (transferring f contract amount)) :
    let o := (f.fund contract amount).run.run (reply scheme c signer) s
    ((∃ funding, o.result = .ok funding) ↔
      amount.toNat ≤ (s.balances.getD signer.address 0).toNat) ∧
    (∀ funding, o.result = .ok funding →
      Funded scheme c signer f contract amount s o.state funding) ∧
    ∀ failure, o.result = .error failure →
      Unfunded scheme c signer f amount s o.state failure := by
  intro o
  have hfunds : Funds scheme c signer f contract amount s o.result o.state :=
    funds_run hread hs hf hwrap htransfer
  generalize o.result = result, o.state = s' at hfunds
  cases hfunds with
  | @refused wrap e hsends hfailed =>
    have hsubmitted := hsends.submitted
    obtain ⟨-, rfl⟩ | ⟨hpoor, rfl⟩ := hsends.wrapping_cases hfactory hwrapped hbar
    · cases hfailed
    · refine ⟨iff_of_false nofun (not_le.mpr hpoor), nofun, ?_⟩
      rintro _ ⟨⟩
      exact ⟨⟨wrap, _, hsubmitted, hsends.carries, rfl⟩, rfl, rfl, rfl⟩
  | @stranded wrap transfer e e' hsends hsuccess hsends' hfailed =>
    have hbar' := hsends.not_mem_reverting hbar
    obtain ⟨-, rfl⟩ | ⟨-, rfl⟩ := hsends.wrapping_cases hfactory hwrapped hbar
    · obtain ⟨-, rfl⟩ | ⟨hpoor, -⟩ := hsends'.transferring_cases hfactory hwrapped hbar'
      · cases hfailed
      · -- what has just been wrapped is there to be moved
        have hcredit := toNat_getD_credit_of_room hheld signer.address
        rw [if_pos rfl] at hcredit
        have hlt : ((credit s.wrapped signer.address amount).getD signer.address 0).toNat <
            amount.toNat := hpoor
        omega
    · cases hsuccess
  | @funded wrap transfer e e' hsends hsuccess hsends' hsuccess' =>
    obtain ⟨henough, hfunded⟩ := funded_of_sends hfactory hwrapped hbar hsends hsuccess hsends'
      hsuccess' hnative hroom
    refine ⟨iff_of_true ⟨_, rfl⟩ henough, ?_, nofun⟩
    rintro _ ⟨⟩
    exact hfunded

/-! ### Nine wei for a contract -/

def fundingFlows : Flows := { sequencer := ⟨devAccount, 1⟩, policy := devPolicy }

def fundingOrders : List SignedDispatch := [
  ⟨wrapping fundingFlows 9, 0,
    { odd := true
      r := 0x8b27fca945559fe94b581cd2472b9f30c59251edf18184b9bc7a9320c13e8af1
      s := 0x7812e76924a75c556c69d0b9dc96e959f69c1218d5d20a6a65c2a10fd749c41c },
    Octets.ofNat 32 0x2504162cf497a66b310a096d3f1d589c2fe434f400b5756ec4ed11403cbd7c47⟩,
  ⟨transferring fundingFlows renewalAddress 9, 1,
    { odd := true
      r := 0x33bc0f1aa6415dbb8187606b2a84bc8b21192f7eb4f4699afd1b5c90700dc076
      s := 0x256fd16467c30475606960cea811931efc0fe56ae4202ead0b4e0bd5d41c070 },
    Octets.ofNat 32 0x813e850a69183802f9ca58b6768863ad2f21133814409bd34090f0a6c0a0349e⟩]

def fundingStart (held : UInt256) : State where
  balances := .ofList [(devAccount, held)]
  wrapped := .ofList [(devAccount, 3), (renewalAddress, 5)]

/-- Of a hundred wei nine are moved, and of eight none. -/
theorem fund_exact_nine :
    let scheme := schemeOf fundingOrders
    let signer := signerOf fundingOrders
    let funded (held : UInt256) := (fundingFlows.fund renewalAddress 9).run.run
      (reply scheme {} signer) (fundingStart held)
    (∃ funding, (funded 100).result = .ok funding ∧ Funded scheme {} signer fundingFlows
      renewalAddress 9 (fundingStart 100) (funded 100).state funding) ∧
    ∃ failure, (funded 8).result = .error failure ∧ Unfunded scheme {} signer fundingFlows 9
      (fundingStart 8) (funded 8).state failure := by
  intro scheme signer funded
  have hread : signer.ReadBack scheme := readBack_signerOf (by decide +kernel)
  have hwrap : Signable {} signer 0 (wrapping fundingFlows 9) :=
    signable_of_mem rfl (by decide +kernel)
  have htransfer : Signable {} signer (0 + 1) (transferring fundingFlows renewalAddress 9) :=
    signable_of_mem rfl (by decide +kernel)
  have hexact (held : UInt256) := fund_exact scheme {} signer fundingFlows renewalAddress 9
    (fundingStart held) hread ⟨rfl, rfl⟩ List.not_mem_nil rfl rfl (by decide +kernel)
  constructor
  · obtain ⟨hiff, hok, -⟩ := hexact 100 (by decide +kernel) (by decide +kernel) (by decide +kernel)
      hwrap htransfer
    obtain ⟨funding, hfunding⟩ := hiff.mpr (by decide +kernel)
    exact ⟨funding, hfunding, hok funding hfunding⟩
  · obtain ⟨hiff, -, herror⟩ := hexact 8 (by decide +kernel) (by decide +kernel) (by decide +kernel)
      hwrap htransfer
    cases hresult : (funded 8).result with
    | ok funding => exact absurd (hiff.mp ⟨funding, hresult⟩) (by decide +kernel)
    | error failure => exact ⟨failure, rfl, herror failure hresult⟩

end Sandwich.Chain
