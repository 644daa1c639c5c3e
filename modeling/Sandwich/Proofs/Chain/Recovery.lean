import Sandwich.Proofs.Chain.Funding
import Sandwich.Proofs.Layout.WireFormat

/-! Balances that are recovered. The wrapped asset is asked for the balance of the contract,
the payload asks for just as much, and the contract reads it off and gives it back. So
nothing is left to recover a second time, and what a contract has been funded with comes
back together with what it had before. -/

namespace Sandwich.Chain

open Operation

variable {scheme : Scheme} {c : Settings} {signer : Signer} {s : State}

/-! ### The way of the balance -/

/-- The payload says to the contract how much it is to give back. -/
theorem recoveredAmount?_recover (amount : UInt256) :
    recoveredAmount? (66 :: Bytes.ofNat 32 amount.toNat) = some amount := by
  have hamount := Bytes.uint256_toNat_ofNat amount
  have hlength := Bytes.length_ofNat 32 amount.toNat
  -- behind a name, the digits are not computed
  generalize Bytes.ofNat 32 amount.toNat = digits at hamount hlength
  have hread : (⟨"amount", .uint256⟩ : Field).read (digits.take 32) = .ok (.uint amount) := by
    rw [List.take_of_length_le hlength.le, ← hamount]
    rfl
  have hdecode : Layout.recover.decode (66 :: digits) =
      .ok ⟨"recover", 66, [("amount", .uint amount)]⟩ := by
    refine Layout.decode_eq_ok_iff.mpr ⟨?_, _, Layout.readFields_cons.mpr ?_, rfl⟩
    · rw [List.length_cons, hlength]
      rfl
    · exact ⟨_, [], hread, rfl, rfl⟩
  rw [recoveredAmount?, Payload.decode_of_head? (l := Layout.recover) (by decide) rfl, hdecode]
  rfl

variable {f : Flows} {contract : Address}

theorem yields_wrappedBalance (hwrapped : f.wrapped = c.wrapped) (contract : Address) (s : State) :
    Yields scheme c signer (f.wrappedBalance contract) s
      [asked (.call f.wrapped (Abi.balanceOf contract))
        (.ok (Word.ofUInt256 (s.wrapped.getD contract 0)).toBytes)]
      (.ok (s.wrapped.getD contract 0)) s := by
  have hview : view c f.wrapped (Abi.balanceOf contract) s =
      (Word.ofUInt256 (s.wrapped.getD contract 0)).toBytes := by
    rw [view, if_pos hwrapped, Abi.balanceOf?_balanceOf]
  have hanswer : answer scheme c (.call f.wrapped (Abi.balanceOf contract)) s =
      (.ok (Word.ofUInt256 (s.wrapped.getD contract 0)).toBytes, s) := by
    rw [answer, hview]
  refine (yields_query hanswer).bind ?_
  rw [Abi.uint?_ofUInt256]
  exact yields_pure _ s

theorem execute_recover (scheme : Scheme) (hfactory : contract ≠ c.factory)
    (hasset : contract ≠ c.wrapped) (hbar : contract ∉ s.reverting) (sender : Address)
    (amount : UInt256) :
    execute scheme c sender contract 0 (66 :: Bytes.ofNat 32 amount.toNat) s =
      if amount.toNat ≤ (s.wrapped.getD contract 0).toNat then
        .silent true { s with
          balances := credit (debit s.balances sender 0) contract 0
          wrapped := credit (debit s.wrapped contract amount) sender amount }
      else .silent false { s with
        balances := credit (debit s.balances sender 0) contract 0 } := by
  have hpayload := recoveredAmount?_recover amount
  generalize Bytes.ofNat 32 amount.toNat = digits at hpayload
  rw [execute, if_neg hbar, transfer_eq_some_iff.mpr ⟨Nat.zero_le _, rfl⟩]
  simp only [if_neg hfactory, if_neg hasset, callContract, Opcode.recover, if_true, hpayload,
    Option.bind_some]
  by_cases h : amount.toNat ≤ (s.wrapped.getD contract 0).toNat
  · rw [if_pos h, transfer_eq_some_iff.mpr ⟨h, rfl⟩]
  · rw [if_neg h, transfer_eq_none_iff.mpr (not_le.mp h)]

/-! ### What a recovery comes to -/

def recovering (f : Flows) (contract : Address) (amount : UInt256) : Dispatch :=
  Flow.dispatch f contract (66 :: Bytes.ofNat 32 amount.toNat) 0

structure Recovered (scheme : Scheme) (c : Settings) (signer : Signer) (f : Flows)
    (contract : Address) (amount : UInt256) (s s' : State) (receipt : Receipt) : Prop where
  confirmed : receipt.success = true
  accepted : ∃ own, s'.submitted = s.submitted ++ [own] ∧
    Carries c signer (s.nonces.getD signer.address 0) (recovering f contract amount) own ∧
    own.transaction.input.length = 33 ∧ receipt.hash = scheme.hash own
  wrapped : Moved s.wrapped s'.wrapped contract signer.address amount.toNat
  emptied : s'.wrapped.getD contract 0 = 0
  native (a : Address) : s'.balances.getD a 0 = s.balances.getD a 0
  code : s'.code = s.code

/-- There is nothing to recover from the contract: its balance is asked for, and that is all. -/
def Barren (scheme : Scheme) (c : Settings) (signer : Signer) (f : Flows) (contract : Address)
    (s : State) : Prop :=
  let o := (f.recover contract).run.run (reply scheme c signer) s
  o.result = .error (.nothingToRecover contract) ∧
    o.actions = [.query (.call c.wrapped (Abi.balanceOf contract))] ∧ o.state = s

theorem barren_of_getD_eq_zero (hwrapped : f.wrapped = c.wrapped)
    (h : s.wrapped.getD contract 0 = 0) : Barren scheme c signer f contract s := by
  have hrecover : Yields scheme c signer (f.recover contract) s
      ([asked (.call f.wrapped (Abi.balanceOf contract))
        (.ok (Word.ofUInt256 (s.wrapped.getD contract 0)).toBytes)] ++ [])
      (.error (.nothingToRecover contract)) s := by
    rw [Flow.recover_eq]
    refine (yields_wrappedBalance hwrapped contract s).bind ?_
    rw [if_pos h]
    exact yields_throw _ s
  rw [Yields, hwrapped] at hrecover
  rw [Barren, hrecover]
  exact ⟨rfl, rfl, rfl⟩

theorem yields_recover (hwrapped : f.wrapped = c.wrapped) (h : s.wrapped.getD contract 0 ≠ 0)
    {ms : List Moment} {receipt : Receipt} {s' : State}
    (hsend : Yields scheme c signer
      ((recovering f contract (s.wrapped.getD contract 0)).send f.sequencer) s ms
      (.ok receipt) s') :
    let amount := s.wrapped.getD contract 0
    Yields scheme c signer (f.recover contract) s
      ([asked (.call f.wrapped (Abi.balanceOf contract)) (.ok (Word.ofUInt256 amount).toBytes)] ++
        .reported (.recovering contract amount) ::
          (ms ++ [.reported (.recovered contract amount receipt.hash)]))
      (.ok ⟨amount, receipt⟩) s' := by
  intro amount
  rw [Flow.recover_eq]
  refine (yields_wrappedBalance hwrapped contract s).bind ?_
  rw [if_neg h]
  refine Yields.report_bind _ (hsend.bind ?_)
  exact (yields_pure _ s').report_bind _

/-- The contract has its whole balance, so it gives that back. -/
theorem Sends.recovering_eq (hfactory : contract ≠ c.factory) (hasset : contract ≠ c.wrapped)
    (hbar : contract ∉ s.reverting) {own : SignedTransaction} {e : Execution}
    (h : Sends scheme c signer (recovering f contract (s.wrapped.getD contract 0)) s own e) :
    e = .silent true { s.used signer.address own.transaction with
      balances := credit (debit s.balances signer.address 0) contract 0
      wrapped := credit (debit s.wrapped contract (s.wrapped.getD contract 0)) signer.address
        (s.wrapped.getD contract 0) } := by
  have henough : (s.wrapped.getD contract 0).toNat ≤
      ((s.used signer.address own.transaction).wrapped.getD contract 0).toNat := le_rfl
  have hexecuted := h.executed
  simp only [recovering, Flow.dispatch] at hexecuted
  rw [execute_recover (s := s.used signer.address own.transaction) scheme hfactory hasset hbar,
    if_pos henough] at hexecuted
  exact hexecuted.symm

theorem recovered_run (hread : signer.ReadBack scheme) (hs : Faultless s)
    (hbar : contract ∉ s.reverting) (hf : f.sequencer = ownSequencer c signer)
    (hwrapped : f.wrapped = c.wrapped) (hfactory : contract ≠ c.factory)
    (hasset : contract ≠ c.wrapped) (hsender : contract ≠ signer.address)
    (h : s.wrapped.getD contract 0 ≠ 0)
    (hsigned : Signable c signer (s.nonces.getD signer.address 0)
      (recovering f contract (s.wrapped.getD contract 0)))
    (hroom : (s.wrapped.getD signer.address 0).toNat + (s.wrapped.getD contract 0).toNat <
      bitBound 256) :
    let amount := s.wrapped.getD contract 0
    let o := (f.recover contract).run.run (reply scheme c signer) s
    ∃ receipt, o.result = .ok ⟨amount, receipt⟩ ∧
      Recovered scheme c signer f contract amount s o.state receipt := by
  intro amount o
  obtain ⟨own, e, ms, hsends, hyields⟩ := exists_sends hread hs hsigned
  have hsubmitted := hsends.submitted
  obtain rfl := hsends.recovering_eq hfactory hasset hbar
  rw [← hf] at hyields
  have ho : o = _ := yields_recover hwrapped h hyields
  rw [ho]
  have hmoved := moved_of_room le_rfl hroom
  obtain ⟨fees, htransaction⟩ := hsends.carries
  refine ⟨_, rfl, rfl, ⟨own, hsubmitted, hsends.carries, ?_, rfl⟩, hmoved, ?_,
    getD_credit_debit_zero _ _ _, rfl⟩
  · rw [htransaction]
    exact congrArg (· + 1) (Bytes.length_ofNat 32 _)
  · have hgiven := hmoved contract
    rw [if_pos rfl, if_neg hsender.symm] at hgiven
    exact BitVec.eq_of_toNat_eq (Nat.add_right_cancel (hgiven.trans (Nat.add_comm _ 0)))

/-- What a contract has been funded with comes back with what it had. -/
theorem recovered_of_funds (hread : signer.ReadBack scheme) (hs : Faultless s)
    (hbar : contract ∉ s.reverting) (hf : f.sequencer = ownSequencer c signer)
    (hwrapped : f.wrapped = c.wrapped) (hfactory : contract ≠ c.factory)
    (hasset : contract ≠ c.wrapped) (hsender : contract ≠ signer.address) {amount : UInt256}
    {funding : Funding} {s' : State}
    (hfunds : Funds scheme c signer f contract amount s (.ok funding) s')
    (hroom : (s.wrapped.getD signer.address 0).toNat + (s.wrapped.getD contract 0).toNat +
      amount.toNat < bitBound 256)
    (hpositive : (s.wrapped.getD contract 0).toNat + amount.toNat ≠ 0)
    (hsigned : Signable c signer (s.nonces.getD signer.address 0 + 1 + 1)
      (recovering f contract (s.wrapped.getD contract 0 + amount))) :
    let o := (f.recover contract).run.run (reply scheme c signer) s'
    ∃ recovery, o.result = .ok recovery ∧
      recovery.amount.toNat = (s.wrapped.getD contract 0).toNat + amount.toNat ∧
      Recovered scheme c signer f contract recovery.amount s' o.state recovery.receipt := by
  have hfit : (s.wrapped.getD contract 0).toNat + amount.toNat < bitBound 256 := by omega
  obtain ⟨hadded, hfaults, hnonce⟩ := hfunds.enriched hwrapped hfit
  have htoNat : (s.wrapped.getD contract 0 + amount).toNat =
      (s.wrapped.getD contract 0).toNat + amount.toNat := BitVec.toNat_add_of_lt hfit
  have hbalance : s'.wrapped.getD contract 0 = s.wrapped.getD contract 0 + amount := by
    have hcontract := hadded contract
    rw [if_pos rfl, ← htoNat] at hcontract
    exact BitVec.eq_of_toNat_eq hcontract
  have hheld := hadded signer.address
  rw [if_neg hsender, Nat.add_zero] at hheld
  have hnonzero : s'.wrapped.getD contract 0 ≠ 0 := by
    rw [hbalance]
    rintro hzero
    rw [hzero] at htoNat
    exact hpositive htoNat.symm
  have hroom' : (s'.wrapped.getD signer.address 0).toNat + (s'.wrapped.getD contract 0).toNat <
      bitBound 256 := by
    rw [hheld, hbalance, htoNat, ← Nat.add_assoc]
    exact hroom
  rw [← hnonce, ← hbalance] at hsigned
  obtain ⟨receipt, hresult, hrecovered⟩ :=
    recovered_run hread (hs.of_same hfaults) (by rwa [hfaults.reverting]) hf hwrapped hfactory
      hasset hsender hnonzero hsigned hroom'
  refine ⟨_, hresult, ?_, hrecovered⟩
  rw [hbalance, htoNat]

/-- Where no fault is due, an account gets the whole wrapped balance of a contract back, if there
is one, and then there is none. Of a contract that it has funded before, this is what the contract
had and the amount. -/
theorem recover_exact (scheme : Scheme) (c : Settings) (signer : Signer) (f : Flows)
    (contract : Address) (s : State) (hread : signer.ReadBack scheme) (hs : Faultless s)
    (hbar : contract ∉ s.reverting) (hf : f.sequencer = ownSequencer c signer)
    (hwrapped : f.wrapped = c.wrapped) (hfactory : contract ≠ c.factory)
    (hasset : contract ≠ c.wrapped) (hsender : contract ≠ signer.address)
    (hroom : (s.wrapped.getD signer.address 0).toNat + (s.wrapped.getD contract 0).toNat <
      bitBound 256)
    (hsigned : s.wrapped.getD contract 0 ≠ 0 → Signable c signer (s.nonces.getD signer.address 0)
      (recovering f contract (s.wrapped.getD contract 0))) :
    let balance := s.wrapped.getD contract 0
    let nonce := s.nonces.getD signer.address 0
    let o := (f.recover contract).run.run (reply scheme c signer) s
    (balance = 0 → Barren scheme c signer f contract s) ∧
    (balance ≠ 0 → ∃ receipt, o.result = .ok ⟨balance, receipt⟩ ∧
      Recovered scheme c signer f contract balance s o.state receipt ∧
      Barren scheme c signer f contract o.state) ∧
    ∀ amount funding,
      let funded := (f.fund contract amount).run.run (reply scheme c signer) s
      let o := (f.recover contract).run.run (reply scheme c signer) funded.state
      funded.result = .ok funding →
      (s.wrapped.getD signer.address 0).toNat + balance.toNat + amount.toNat < bitBound 256 →
      balance.toNat + amount.toNat ≠ 0 →
      Signable c signer nonce (wrapping f amount) →
      Signable c signer (nonce + 1) (transferring f contract amount) →
      Signable c signer (nonce + 1 + 1) (recovering f contract (balance + amount)) →
      ∃ recovery, o.result = .ok recovery ∧
        recovery.amount.toNat = balance.toNat + amount.toNat ∧
        Recovered scheme c signer f contract recovery.amount funded.state o.state
          recovery.receipt := by
  intro balance nonce o
  refine ⟨barren_of_getD_eq_zero hwrapped, fun h => ?_, ?_⟩
  · obtain ⟨receipt, hresult, hrecovered⟩ :=
      recovered_run hread hs hbar hf hwrapped hfactory hasset hsender h (hsigned h) hroom
    exact ⟨receipt, hresult, hrecovered, barren_of_getD_eq_zero hwrapped hrecovered.emptied⟩
  · intro amount funding funded o hfunded hroom' hpositive hwrap htransfer hrecover
    have hfunds : Funds scheme c signer f contract amount s funded.result funded.state :=
      funds_run hread hs hf hwrap htransfer
    rw [hfunded] at hfunds
    exact recovered_of_funds hread hs hbar hf hwrapped hfactory hasset hsender hfunds hroom'
      hpositive hrecover

def recoveryOrders : List SignedDispatch := fundingOrders ++ [
  ⟨recovering fundingFlows renewalAddress 14, 2,
    { odd := true
      r := 0xdbc34a61b5fba728e8907314c4b02aa645b35ad49ecf82cfa2b58e405283e453
      s := 0x7c9b6f88cbffffb3d96c4fbfb9923154c156cbb204007b3e26b1c1205e6450a6 },
    Octets.ofNat 32 0x331b5cfaae4745de7d6f58869e49169f7188f9b275a6fa8c7c3d8dd85210196f⟩,
  ⟨recovering fundingFlows renewalAddress 5, 0,
    { odd := true
      r := 0xbd3af8b774b9feb8dd94ce2716128ce4ffd12fc89321bb556aadc6397adac194
      s := 0x73592995684868147fe9fa4b8297d9bae2280addc8fb484f88057525992cfe38 },
    Octets.ofNat 32 0xa7a005ea1c7302fdfa99f9140f1e63da13894da5840a56566f9eca54eed8ef36⟩]

/-- The contract gives back its five wei, and all fourteen once it has been funded with nine. -/
theorem recover_exact_nine :
    let scheme := schemeOf recoveryOrders
    let signer := signerOf recoveryOrders
    let s := fundingStart 100
    let funded := (fundingFlows.fund renewalAddress 9).run.run (reply scheme {} signer) s
    let recovered (s : State) := (fundingFlows.recover renewalAddress).run.run
      (reply scheme {} signer) s
    (∃ receipt, (recovered s).result = .ok ⟨5, receipt⟩ ∧
      Recovered scheme {} signer fundingFlows renewalAddress 5 s (recovered s).state receipt ∧
      Barren scheme {} signer fundingFlows renewalAddress (recovered s).state) ∧
    ∃ recovery, (recovered funded.state).result = .ok recovery ∧ recovery.amount.toNat = 14 ∧
      Recovered scheme {} signer fundingFlows renewalAddress recovery.amount funded.state
        (recovered funded.state).state recovery.receipt := by
  intro scheme signer s funded recovered
  have hread : signer.ReadBack scheme := readBack_signerOf (by decide +kernel)
  have hrecover : Signable {} signer 0 (recovering fundingFlows renewalAddress 5) :=
    signable_of_mem rfl (by decide +kernel)
  obtain ⟨-, hrecovered, hfunded⟩ := recover_exact scheme {} signer fundingFlows renewalAddress s
    hread ⟨rfl, rfl⟩ List.not_mem_nil rfl rfl (by decide +kernel) (by decide +kernel)
    (by decide +kernel) (by decide +kernel) fun _ => hrecover
  refine ⟨hrecovered (by decide +kernel), ?_⟩
  have hsuccess : funded.result.toOption.isSome := by decide +kernel
  cases hresult : funded.result with
  | error failure =>
    rw [hresult] at hsuccess
    cases hsuccess
  | ok funding =>
    exact hfunded 9 funding hresult (by decide +kernel) (by decide +kernel)
      (signable_of_mem rfl (by decide +kernel)) (signable_of_mem rfl (by decide +kernel))
      (signable_of_mem rfl (by decide +kernel))

end Sandwich.Chain
