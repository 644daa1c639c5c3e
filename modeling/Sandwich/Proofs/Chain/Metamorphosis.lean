import Sandwich.Proofs.Chain.Solitary
import Sandwich.Proofs.Deployment

/-! Contracts that come and go. Each deployment through the factory of the chain puts its
bytecode at the address of its salt, and says so, and each contract that destroys itself
leaves nothing. So the code at an address is what the last of these steps has made of it. -/

namespace Sandwich.Chain

open Operation

variable {scheme : Scheme} {c : Settings} {signer : Signer} {s : State}

/-! ### What the transactions do -/

theorem exists_transfer_zero (balances : Table Address UInt256) (source target : Address) :
    ∃ balances', transfer balances source target 0 = some balances' :=
  ⟨_, transfer_eq_some_iff.mpr ⟨Nat.zero_le _, rfl⟩⟩

theorem exists_execute_deploy (scheme : Scheme) (hreport : c.factoryReport = .truthful)
    (hbar : c.factory ∉ s.reverting) (sender : Address) (salt : Word) {bytecode initData : Bytes}
    (hfits : Abi.Fits bytecode initData) :
    ∃ s', execute scheme c sender c.factory 0 (Abi.deploy salt bytecode initData) s =
        ⟨true, [deployedLog c (metamorphicAddress scheme.digest c.factory salt)], s'⟩ ∧
      s'.code = s.code.set (metamorphicAddress scheme.digest c.factory salt) bytecode := by
  obtain ⟨balances, hpay⟩ := exists_transfer_zero s.balances sender c.factory
  let address := metamorphicAddress scheme.digest c.factory salt
  refine ⟨{ s with balances, code := s.code.set address bytecode }, ?_, rfl⟩
  simp only [execute, if_neg hbar, hpay, if_true, callFactory, Abi.deploy?_deploy hfits, hreport]
  rfl

/-- A contract that is told to destroy itself does so, unless the call fails. -/
theorem code_execute_destroy (scheme : Scheme) (c : Settings) (s : State)
    (sender contract : Address) :
    (execute scheme c sender contract 0 [42] s).state.code =
      if (execute scheme c sender contract 0 [42] s).success then s.code.erase contract
      else s.code := by
  rw [execute]
  split
  · rfl
  · split
    · rfl
    · simp only
      split
      · rfl
      · split
        · rfl
        · rfl

/-! ### What the factory reports -/

theorem deployedAddress?_deployedLog (a : Address) :
    (deployedLog c a).deployedAddress? = some a := by
  have hword : Octets.ofBytes? 32 (a.toWord.toBytes.take 32) = some a.toWord := by
    rw [List.take_of_length_le (Nat.le_of_eq a.toWord.length_toBytes), Octets.ofBytes?,
      dif_pos a.toWord.length_toBytes]
  have hzeros : a.toWord.toBytes.take 12 = List.replicate 12 0 :=
    List.take_left' (List.length_replicate ..)
  change (Octets.ofBytes? 32 (a.toWord.toBytes.take 32)).bind _ = _
  rw [hword, Option.bind_some]
  exact (if_pos hzeros).trans (congrArg some (Word.toAddress_toWord a))

theorem reportedAddress?_deployedLog {d : Deployer} (hfactory : d.factory = c.factory)
    {receipt : Receipt} {a : Address} (hlogs : receipt.logs = [deployedLog c a]) :
    d.reportedAddress? receipt = some a := by
  have hfind : [deployedLog c a].find? (·.address = d.factory) = some (deployedLog c a) := by
    simp [deployedLog, hfactory]
  rw [Deployer.reportedAddress?, hlogs, hfind, Option.bind_some, deployedAddress?_deployedLog]

/-! ### Steps in the life of contracts -/

/-- A contract is deployed, or told to destroy itself. -/
inductive Revision
  | deploy (d : Deployer) (salt : Word) (bytecode initData : Bytes)
  | destroy (f : Flows) (contract : Address)

namespace Revision

abbrev Result : Revision → Type
  | deploy _ _ _ _ => Deployment
  | destroy _ _ => Receipt

def operation (hash : Bytes → Word) (sequencer : Sequencer) : (x : Revision) → Operation x.Result
  | deploy d salt bytecode initData => { d with sequencer }.deploy hash salt bytecode initData
  | destroy f contract => { f with sequencer }.destroy contract

def dispatch : Revision → Dispatch
  | deploy d salt bytecode initData =>
    ⟨d.factory, Abi.deploy salt bytecode initData, 0, d.policy, d.gasLimit⟩
  | destroy f contract => ⟨contract, [42], 0, f.policy, f.gasLimit⟩

/-- A deployment goes through the factory of the chain, and there is bytecode to be deployed. -/
def Sound (c : Settings) : Revision → Prop
  | deploy d _ bytecode initData =>
    d.factory = c.factory ∧ bytecode ≠ [] ∧ Abi.Fits bytecode initData
  | destroy _ _ => True

instance (c : Settings) : (x : Revision) → Decidable (x.Sound c)
  | deploy _ _ _ _ => inferInstanceAs (Decidable (_ ∧ _))
  | destroy _ _ => inferInstanceAs (Decidable True)

def Signable (c : Settings) (signer : Signer) (nonce : UInt64) (x : Revision) : Prop :=
  Chain.Signable c signer nonce x.dispatch

end Revision

/-- A step that has been taken, and what came of it. -/
structure Revised where
  revision : Revision
  moments : List Moment
  result : Except Failure revision.Result

def reviseAll (scheme : Scheme) (c : Settings) (signer : Signer) :
    List Revision → State → List Revised × State
  | [], s => ([], s)
  | x :: xs, s =>
    let o := (x.operation scheme.digest (ownSequencer c signer)).run.run (reply scheme c signer) s
    let rest := reviseAll scheme c signer xs o.state
    (⟨x, o.moments, o.result⟩ :: rest.1, rest.2)

/-- The code that a step leaves at an address, if it has to do with it. A contract that fails to
destroy itself stays as it is. -/
def Revised.code? (hash : Bytes → Word) (factory a : Address) : Revised → Option (Option Bytes)
  | ⟨.deploy _ salt bytecode _, _, _⟩ =>
    if metamorphicAddress hash factory salt = a then some (some bytecode) else none
  | ⟨.destroy _ contract, _, .ok _⟩ => if contract = a then some none else none
  | ⟨.destroy _ _, _, .error _⟩ => none

/-- No deployment is told to be elsewhere than expected. -/
def Expected (ms : List Moment) : Prop :=
  ∀ address predicted, .reported (.unexpectedAddress address predicted) ∉ ms

theorem expected_send (d : Dispatch) (sequencer : Sequencer) (a : Dispatch.Answers) :
    Expected (d.sent sequencer a ++ [asked (.awaitReceipt a.hash) (.ok a.receipt),
      .reported (verdict a.hash a.receipt).1]) := by
  intro address predicted h
  rw [verdict] at h
  split at h <;> simp at h

variable {d : Deployer} {salt : Word} {bytecode initData : Bytes}

theorem exists_yields_send_deploy (hread : signer.ReadBack scheme)
    (hreport : c.factoryReport = .truthful) (hs : Faultless s) (hbar : c.factory ∉ s.reverting)
    (hfits : Abi.Fits bytecode initData) {policy : FeePolicy} {gasLimit : UInt64} {fees : Fees}
    {raw : Bytes} (hfees : policy.settle c.priorityFee c.gasPrice = .ok fees)
    (hsign : signer.sign
      (Dispatch.request ⟨c.factory, Abi.deploy salt bytecode initData, 0, policy, gasLimit⟩
        (ownSequencer c signer) (s.nonces.getD signer.address 0) fees) = .ok raw) :
    ∃ ms receipt s', Yields scheme c signer ((ownSequencer c signer).send c.factory
        (Abi.deploy salt bytecode initData) policy gasLimit) s ms (.ok receipt) s' ∧
      Expected ms ∧
      receipt.logs = [deployedLog c (metamorphicAddress scheme.digest c.factory salt)] ∧
      s'.code = s.code.set (metamorphicAddress scheme.digest c.factory salt) bytecode ∧
      Advanced signer.address s s' := by
  obtain ⟨own, -, hsend, hadvanced⟩ := exists_yields_send hread hs hfees hsign
  have hbar' : c.factory ∉ (s.used signer.address own.transaction).reverting := hbar
  obtain ⟨s', hexecute, hcode⟩ :=
    exists_execute_deploy scheme hreport hbar' signer.address salt hfits
  simp only [hexecute] at hsend hadvanced
  exact ⟨_, _, _, hsend, expected_send _ _ _, rfl, hcode, hadvanced⟩

/-- A deployment that is reported to be where it is expected. -/
theorem Yields.deploy {ms : List Moment} {receipt : Receipt} {s' : State}
    (hbytecode : bytecode ≠ [])
    (hsend : Yields scheme c signer (d.sending salt bytecode initData) s ms (.ok receipt) s')
    (hreported : d.reportedAddress? receipt =
      some (metamorphicAddress scheme.digest d.factory salt)) :
    let predicted := metamorphicAddress scheme.digest d.factory salt
    Yields scheme c signer (d.deploy scheme.digest salt bytecode initData) s
      ((Deployer.opening scheme.digest d salt bytecode).map .reported ++
        (ms ++ [.reported (.deployed predicted receipt.hash receipt.gasUsed)]))
      (.ok ⟨predicted, receipt.hash, receipt.gasUsed⟩) s' := by
  intro predicted
  rw [Yields] at hsend
  rw [Yields, Deployer.run_deploy hbytecode, hsend]
  simp [Deployer.concluded, hreported, predicted]

theorem exists_yields_deploy (hread : signer.ReadBack scheme)
    (hreport : c.factoryReport = .truthful) (hs : Faultless s) (hbar : c.factory ∉ s.reverting)
    (hd : d.sequencer = ownSequencer c signer) (hfactory : d.factory = c.factory)
    (hbytecode : bytecode ≠ []) (hfits : Abi.Fits bytecode initData) {fees : Fees}
    {raw : Bytes} (hfees : d.policy.settle c.priorityFee c.gasPrice = .ok fees)
    (hsign : signer.sign
      (Dispatch.request ⟨c.factory, Abi.deploy salt bytecode initData, 0, d.policy, d.gasLimit⟩
        (ownSequencer c signer) (s.nonces.getD signer.address 0) fees) = .ok raw) :
    ∃ ms hash gasUsed s', Yields scheme c signer
        (d.deploy scheme.digest salt bytecode initData) s ms
        (.ok ⟨metamorphicAddress scheme.digest c.factory salt, hash, gasUsed⟩) s' ∧
      Expected ms ∧
      s'.code = s.code.set (metamorphicAddress scheme.digest c.factory salt) bytecode ∧
      Advanced signer.address s s' := by
  obtain ⟨ms, receipt, s', hsend, hexpected, hlogs, hcode, hadvanced⟩ :=
    exists_yields_send_deploy hread hreport hs hbar hfits hfees hsign
  rw [← hd, ← hfactory] at hsend
  have hreported := reportedAddress?_deployedLog hfactory hlogs
  rw [← hfactory] at hreported ⊢
  refine ⟨_, _, _, _, Yields.deploy hbytecode hsend hreported, ?_, hfactory ▸ hcode, hadvanced⟩
  intro address predicted h
  simp [Deployer.opening, hexpected address predicted] at h

def codeAfter (code : Table Address Bytes) (contract : Address) :
    Except Failure Receipt → Table Address Bytes
  | .ok _ => code.erase contract
  | .error _ => code

theorem exists_yields_destroy (hread : signer.ReadBack scheme) (hs : Faultless s) {f : Flows}
    (hf : f.sequencer = ownSequencer c signer) {contract : Address} {fees : Fees} {raw : Bytes}
    (hfees : f.policy.settle c.priorityFee c.gasPrice = .ok fees)
    (hsign : signer.sign (Dispatch.request ⟨contract, [42], 0, f.policy, f.gasLimit⟩
      (ownSequencer c signer) (s.nonces.getD signer.address 0) fees) = .ok raw) :
    ∃ ms result s', Yields scheme c signer (f.destroy contract) s ms result s' ∧
      s'.code = codeAfter s.code contract result ∧ Advanced signer.address s s' := by
  obtain ⟨own, -, hsend, hadvanced⟩ := exists_yields_send hread hs hfees hsign
  rw [← hf] at hsend
  refine ⟨_, _, _, Yields.report_bind (.destroying contract) hsend, ?_, hadvanced⟩
  let e := execute scheme c signer.address contract 0 [42] (s.used signer.address own.transaction)
  have hcode : e.state.code = if e.success then s.code.erase contract else s.code :=
    code_execute_destroy scheme c (s.used signer.address own.transaction) signer.address contract
  change e.state.code =
    codeAfter s.code contract (verdict (scheme.hash own) (receiptOf scheme own e)).2
  rw [hcode]
  cases hsuccess : e.success <;> simp [verdict, receiptOf, hsuccess, codeAfter]

/-! ### A whole run -/

/-- What a step must come to: a contract that is deployed is at the address of its salt, as
expected. -/
def Revised.Faithful (hash : Bytes → Word) (factory : Address) : Revised → Prop
  | ⟨.deploy _ salt _ _, ms, result⟩ => Expected ms ∧
    ∃ transaction gasUsed, result = .ok ⟨metamorphicAddress hash factory salt, transaction, gasUsed⟩
  | ⟨.destroy _ _, _, _⟩ => True

theorem revised_run (hread : signer.ReadBack scheme) (hreport : c.factoryReport = .truthful)
    (hs : Faultless s) (hbar : c.factory ∉ s.reverting) {x : Revision} (hsound : x.Sound c)
    (hsigned : x.Signable c signer (s.nonces.getD signer.address 0)) :
    let o := (x.operation scheme.digest (ownSequencer c signer)).run.run (reply scheme c signer) s
    let report : Revised := ⟨x, o.moments, o.result⟩
    report.Faithful scheme.digest c.factory ∧
      (∀ a, o.state.code.get? a = (report.code? scheme.digest c.factory a).getD (s.code.get? a)) ∧
      Advanced signer.address s o.state := by
  obtain ⟨fees, raw, hfees, hsign⟩ := hsigned
  cases x with
  | deploy d salt bytecode initData =>
    obtain ⟨hfactory, hbytecode, hfits⟩ := hsound
    rw [Revision.dispatch, hfactory] at hsign
    let own : Deployer := { d with sequencer := ownSequencer c signer }
    obtain ⟨ms, transaction, gasUsed, s', hyields, hexpected, hcode, hadvanced⟩ :=
      exists_yields_deploy (d := own) hread hreport hs hbar rfl hfactory hbytecode hfits hfees hsign
    simp only [Revision.operation]
    rw [hyields]
    refine ⟨⟨hexpected, transaction, gasUsed, rfl⟩, fun a => ?_, hadvanced⟩
    rw [hcode, Table.get?_set, Revised.code?]
    split <;> rfl
  | destroy f contract =>
    obtain ⟨ms, result, s', hyields, hcode, hadvanced⟩ :=
      exists_yields_destroy (f := { f with sequencer := ownSequencer c signer }) hread hs rfl
        hfees hsign
    simp only [Revision.operation]
    rw [hyields]
    refine ⟨trivial, fun a => ?_, hadvanced⟩
    rw [hcode]
    cases result with
    | ok receipt =>
      rw [codeAfter, Table.get?_erase, Revised.code?]
      split <;> rfl
    | error failure => rfl

/-- What holds of steps that have been taken one after another. -/
structure Metamorphic (scheme : Scheme) (c : Settings) (xs : List Revision) (start s : State)
    (reports : List Revised) : Prop where
  /-- All the steps have been taken. -/
  revisions : reports.map Revised.revision = xs
  /-- Each deployment succeeds, and reports the address of its salt as it was to be expected. -/
  faithful (report : Revised) : report ∈ reports → report.Faithful scheme.digest c.factory
  /-- The code at an address is what the last step has left there that had to do with it. -/
  code (a : Address) : s.code.get? a =
    (reports.reverse.findSome? (Revised.code? scheme.digest c.factory a)).getD (start.code.get? a)

/-- On a chain on which no fault is due, an account that is alone on its address deploys and
destroys contracts as it likes. -/
theorem metamorphic_reviseAll (scheme : Scheme) (c : Settings) (signer : Signer)
    (hread : signer.ReadBack scheme) (hreport : c.factoryReport = .truthful) (xs : List Revision)
    (start : State) (hstart : Faultless start) (hbar : c.factory ∉ start.reverting)
    (hsound : ∀ x ∈ xs, x.Sound c)
    (hsigned : ∀ (i : Nat) (x : Revision), xs[i]? = some x →
      x.Signable c signer (start.nonces.getD signer.address 0 + UInt64.ofNat i)) :
    let o := reviseAll scheme c signer xs start
    Metamorphic scheme c xs start o.2 o.1 := by
  induction xs generalizing start with
  | nil => exact ⟨rfl, fun _ h => (nomatch h), fun a => rfl⟩
  | cons x xs ih =>
    obtain ⟨hx, hxs⟩ := List.forall_mem_cons.mp hsound
    have hfirst := hsigned 0 x rfl
    rw [show UInt64.ofNat 0 = 0 from rfl, UInt64.add_zero] at hfirst
    obtain ⟨hfaithful, hcode, hadvanced⟩ := revised_run hread hreport hstart hbar hx hfirst
    have hlater (i : Nat) (y : Revision) (hy : xs[i]? = some y) := hsigned (i + 1) y hy
    simp only [UInt64.ofNat_add] at hlater
    obtain ⟨hrevisions, hreports, hrest⟩ := ih _ (hstart.of_same hadvanced.faults)
      (by rwa [hadvanced.faults.reverting]) hxs fun i y hy => by
        rw [hadvanced.nonce, UInt64.add_assoc, UInt64.add_comm 1]
        exact hlater i y hy
    refine ⟨congrArg (x :: ·) hrevisions, List.forall_mem_cons.mpr ⟨hfaithful, hreports⟩,
      fun a => ?_⟩
    simp only [reviseAll, hrest, hcode, List.reverse_cons, List.findSome?_append,
      List.findSome?_singleton]
    cases List.findSome? _ _ <;> rfl

/-! ### A contract that is replaced -/

/-- A salt that starts with the address of somebody else. -/
def renewalSalt : Word := ⟨List.replicate 32 7, rfl⟩

def renewalAddress : Address := Octets.ofNat 20 0xfa320a99e21129b266030b80010cb15dfcd30597

def renewals : List Revision :=
  let deployer : Deployer := { sequencer := ⟨devAccount, 1⟩, policy := devPolicy }
  let flows : Flows := { sequencer := ⟨devAccount, 1⟩, policy := devPolicy }
  [.deploy deployer renewalSalt [0x60, 0x01] [], .destroy flows renewalAddress,
    .deploy deployer renewalSalt [0x60, 0x02, 0x00] [0xab]]

def renewalSignatures : List (Signature × Word) := [
  ({ odd := true
     r := 0xa13f206cc20f08644fde41eee4f510e88c99b309b5d9e09bea7306bcc4c57845
     s := 0x77524bb9f1c687f073a817cfe5fa36e9c523653f1ae34f5e73476b6212bffff8 },
    Octets.ofNat 32 0x353d7c562f4f870eee9b1c1fd84d5970ca9697483c844920cdd283daaf4cfe29),
  ({ odd := false
     r := 0x7321e1dc32979220a8fee5f1cfa0d11653bcdbd5326697eccb7462c29acc67ab
     s := 0x484a97fea4d8a1abdad2b906583998307c96437174dfe85646d68e7390cf2b40 },
    Octets.ofNat 32 0x088b7cccbc91723432485969af7d3506496ac2f9eed42b2646f9bbc515b14bb8),
  ({ odd := false
     r := 0xd0c4e50815fec8a5a6b91e51676aff0f295a9dbdad8bafa4b4475d2b8fcad384
     s := 0x78c5ba6a9c821bf2bcbe2d44211a0d45fc5d0e722051390e3801b94923338355 },
    Octets.ofNat 32 0xef1b022fcf0334ea3d914a57a60703e717674534819bff7ed471b453592fe515)]

def renewalTransactions : List SignedDispatch :=
  (renewals.zip renewalSignatures).zipIdx.map fun ((x, signature, hash), i) =>
    ⟨x.dispatch, UInt64.ofNat i, signature, hash⟩

/-- Of the program of the factory and of what the address of the salt is made from, the hashes
are given. -/
def renewalScheme : Scheme :=
  { schemeOf renewalTransactions with
    digest := fun bytes => Octets.ofNat 32 (if bytes = metamorphicInitCode then
      0x7e18b382dec96fdc3badcb1ca6258e4f14469630399ad6ccb243b0d9f5344366
    else 0x99688b408a9926d43533ba97fa320a99e21129b266030b80010cb15dfcd30597) }

def renewer : Signer := signerOf renewalTransactions

theorem renewer_readBack : renewer.ReadBack renewalScheme := by
  have hread : renewer.ReadBack (schemeOf renewalTransactions) :=
    readBack_signerOf (by decide +kernel)
  exact hread.with_digest _

theorem signable_renewals (i : Nat) (x : Revision) (hx : renewals[i]? = some x) :
    x.Signable {} renewer (UInt64.ofNat i) := by
  have hall : ∀ step ∈ renewals.zipIdx, step.1.dispatch.policy = devPolicy ∧
      (step.1.dispatch, UInt64.ofNat step.2) ∈
        renewalTransactions.map fun y => (y.dispatch, y.nonce) := by
    decide +kernel
  obtain ⟨hpolicy, hmem⟩ := hall (x, i) (List.mk_mem_zipIdx_iff_getElem?.mpr hx)
  exact signable_of_mem hpolicy hmem

/-- The contract with the second bytecode stands where the first has been, and the account has been
told so both times. -/
theorem metamorphic_renewals :
    renewer.ReadBack renewalScheme ∧ ({} : Settings).factoryReport = .truthful ∧
      Faultless {} ∧ ({} : Settings).factory ∉ ({} : State).reverting ∧
      (∀ x ∈ renewals, x.Sound {}) ∧
      (∀ (i : Nat) (x : Revision), renewals[i]? = some x → x.Signable {} renewer
        (({} : State).nonces.getD renewer.address 0 + UInt64.ofNat i)) ∧
      let o := reviseAll renewalScheme {} renewer renewals {}
      Metamorphic renewalScheme {} renewals {} o.2 o.1 ∧
        o.2.code.get? renewalAddress = some [0x60, 0x02, 0x00] := by
  have hfaultless : Faultless {} := ⟨rfl, rfl⟩
  have hbar : ({} : Settings).factory ∉ ({} : State).reverting := List.not_mem_nil
  have hsound : ∀ x ∈ renewals, x.Sound {} := by decide +kernel
  have hsigned (i : Nat) (x : Revision) (hx : renewals[i]? = some x) : x.Signable {} renewer
      (({} : State).nonces.getD renewer.address 0 + UInt64.ofNat i) := by
    have hzero : ({} : State).nonces.getD renewer.address 0 = 0 := rfl
    rw [hzero, UInt64.zero_add]
    exact signable_renewals i x hx
  exact ⟨renewer_readBack, rfl, hfaultless, hbar, hsound, hsigned,
    metamorphic_reviseAll renewalScheme {} renewer renewer_readBack rfl renewals {} hfaultless hbar
      hsound hsigned, by decide +kernel⟩

end Sandwich.Chain
