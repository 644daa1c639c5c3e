import Sandwich.Deployment
import Sandwich.Flow
import Sandwich.Proofs.Chain.Orderly
import Sandwich.Proofs.Sequencer.Calls

/-! Errands that an account runs one after another on a chain that others use at the
same time. As long as nobody else signs for the account, its transactions are taken
with consecutive nonces, and none is refused or lost that is not scripted to be,
whatever has become of those before it. -/

namespace Sandwich.Chain

open Operation

variable {scheme : Scheme} {c : Settings} {signer : Signer} {α β : Type}

/-! ### Operations out of orderly ones -/

theorem scripted_of_not_submitted {scenes : List Scene} {failure : Failure}
    (h : ¬ failure.Submitted) : Scripted scenes failure := by
  cases failure with
  | submissionRejected _ _ | receiptUnavailable _ _ _ => exact absurd trivial h
  | _ => trivial

/-- An operation that submits nothing, and does not fail as if it had. -/
theorem orderly_of_quiet {op : Operation α}
    (hquiet : ∀ ms result, Runs op ms result → (∀ m ∈ ms, Quiet m) ∧
      ∀ failure, result = .error failure → ¬ failure.Submitted) :
    Orderly scheme c signer op := by
  intro ms result s scenes s' hruns h
  obtain ⟨hms, hfailure⟩ := hquiet ms result hruns
  exact ⟨(h.of_quiet hms).1, fun failure heq => scripted_of_not_submitted (hfailure failure heq)⟩

theorem orderly_pure (a : α) : Orderly scheme c signer (pure a : Operation α) := by
  refine orderly_of_quiet fun ms result h => ?_
  obtain ⟨rfl, rfl⟩ := runs_pure_iff.mp h
  exact ⟨List.forall_mem_nil _, nofun⟩

theorem orderly_throw {failure : Failure} (hfailure : ¬ failure.Submitted) :
    Orderly scheme c signer (throw failure : Operation α) := by
  refine orderly_of_quiet fun ms result h => ?_
  obtain ⟨rfl, rfl⟩ := runs_throw_iff.mp h
  refine ⟨List.forall_mem_nil _, ?_⟩
  rintro _ ⟨⟩
  exact hfailure

theorem orderly_report (event : Event) : Orderly scheme c signer (report event) := by
  refine orderly_of_quiet fun ms result h => ?_
  obtain ⟨rest, rfl, hrest⟩ := Program.runs_report_iff.mp h
  obtain ⟨rfl, rfl⟩ := Program.runs_done_iff.mp hrest
  exact ⟨by simp [Quiet], nofun⟩

theorem orderly_ofExcept {ε : Type} {onError : ε → Failure}
    (honError : ∀ e, ¬ (onError e).Submitted) (x : Except ε α) :
    Orderly scheme c signer (ofExcept onError x) := by
  refine orderly_of_quiet fun ms result h => ?_
  obtain ⟨rfl, hresult⟩ := Program.runs_done_iff.mp h
  refine ⟨List.forall_mem_nil _, ?_⟩
  rintro failure rfl
  obtain ⟨e, -, rfl⟩ := Except.mapError_eq_error_iff.mp hresult
  exact honError e

theorem orderly_read_call (step : ReadStep) (receiver : Address) (input : Bytes) :
    Orderly scheme c signer (read step (.call receiver input)) := by
  refine orderly_of_quiet fun ms result h => ?_
  cases result with
  | ok answer =>
    obtain rfl := runs_query_ok_iff.mp h
    exact ⟨by simp [Quiet], nofun⟩
  | error failure =>
    obtain ⟨e, rfl, rfl⟩ := runs_query_error_iff.mp h
    refine ⟨by simp [Quiet], ?_⟩
    rintro _ ⟨⟩
    exact id

theorem Orderly.bind {x : Operation α} {f : α → Operation β} (hx : Orderly scheme c signer x)
    (hf : ∀ a, Orderly scheme c signer (f a)) : Orderly scheme c signer (x >>= f) := by
  intro ms result s scenes s' hruns h
  obtain ⟨failure, hfail, rfl⟩ | ⟨ms₁, a, ms₂, hfirst, hrest, rfl⟩ := runs_bind_iff.mp hruns
  · obtain ⟨hfair, hscripted⟩ := hx hfail h
    refine ⟨hfair, ?_⟩
    rintro _ ⟨⟩
    exact hscripted failure rfl
  · obtain ⟨scenes₁, middle, scenes₂, rfl, h₁, h₂⟩ := h.exists_append
    obtain ⟨hfair₁, -⟩ := hx hfirst h₁
    obtain ⟨hfair₂, hscripted⟩ := hf a hrest h₂
    exact ⟨List.forall_mem_append.mpr ⟨hfair₁, hfair₂⟩, fun failure heq =>
      (hscripted failure heq).mono (List.subset_append_right _ _)⟩

theorem Orderly.when {p : Prop} [Decidable p] {x : Operation PUnit} {next : PUnit → Operation α}
    (hx : Orderly scheme c signer x) (hnext : ∀ u, Orderly scheme c signer (next u)) :
    Orderly scheme c signer (if p then x >>= next else next ()) := by
  split
  · exact hx.bind hnext
  · exact hnext ()

/-- The failures that are changed are not those of a submission or of a wait. -/
theorem Orderly.adapt {op : Operation α} (h : Orderly scheme c signer op) :
    Orderly scheme c signer (ExceptT.adapt Deployer.deploymentFailure op) := by
  intro ms result s scenes s' hruns halong
  obtain ⟨ms₁, result', ms₂, hop, hdone, rfl⟩ := Program.runs_bind_iff.mp hruns
  obtain ⟨rfl, rfl⟩ := Program.runs_done_iff.mp hdone
  rw [List.append_nil] at halong
  obtain ⟨hfair, hscripted⟩ := h hop halong
  refine ⟨hfair, fun failure heq => ?_⟩
  obtain ⟨failure', rfl, rfl⟩ := Except.mapError_eq_error_iff.mp heq
  have hbefore := hscripted failure' rfl
  cases failure' with
  | reverted _ _ => trivial
  | _ => exact hbefore

/-! ### Errands -/

/-- Something to be done by the owner of an account. The sender in the terms is of no account: who
runs the errand is the sender. -/
inductive Errand
  | send (d : Dispatch)
  | fund (f : Flows) (contract : Address) (amount : UInt256)
  | recover (f : Flows) (contract : Address)
  | frontrun (f : Flows) (contract : Address) (arguments : Frontrun)
  | destroy (f : Flows) (contract : Address)
  | topUp (f : Flows) (recipient : Address) (value : UInt256)
  | deploy (d : Deployer) (salt : Word) (bytecode initData : Bytes)

/-- The errand, run by `sequencer`. What it results in, if it succeeds, does not matter here. -/
def Errand.operation (hash : Bytes → Word) (sequencer : Sequencer) : Errand → Operation Unit
  | send d => do let _ ← d.send sequencer
  | fund f contract amount => do let _ ← { f with sequencer }.fund contract amount
  | recover f contract => do let _ ← { f with sequencer }.recover contract
  | frontrun f contract arguments => do let _ ← { f with sequencer }.frontrun contract arguments
  | destroy f contract => do let _ ← { f with sequencer }.destroy contract
  | topUp f recipient value => do let _ ← { f with sequencer }.topUp recipient value
  | deploy d salt bytecode initData => do
    let _ ← { d with sequencer }.deploy hash salt bytecode initData

section

variable (hread : signer.ReadBack scheme) {f : Flows} (hf : f.sequencer = ownSequencer c signer)

include hread hf

theorem orderly_sendValue (receiver : Address) (input : Bytes) (value : UInt256)
    (gasLimit : UInt64) : Orderly scheme c signer
      (f.sequencer.sendValue receiver input value f.policy gasLimit) := by
  rw [hf]
  exact orderly_send hread ⟨receiver, input, value, f.policy, gasLimit⟩

theorem orderly_fund (contract : Address) (amount : UInt256) :
    Orderly scheme c signer (f.fund contract amount) := by
  refine (orderly_report _).bind fun _ => ?_
  refine (orderly_sendValue hread hf _ _ _ _).bind fun _ => ?_
  refine (orderly_report _).bind fun _ => ?_
  exact (orderly_sendValue hread hf _ _ _ _).bind fun _ => orderly_pure _

theorem orderly_recover (contract : Address) :
    Orderly scheme c signer (f.recover contract) := by
  refine Orderly.bind ?_ fun amount => ?_
  · refine (orderly_read_call _ _ _).bind fun data => ?_
    split
    · exact orderly_pure _
    · exact orderly_throw id
  · refine Orderly.when (orderly_throw id) fun _ => ?_
    refine (orderly_report _).bind fun _ => ?_
    refine (orderly_ofExcept (fun _ => id) _).bind fun payload => ?_
    refine (orderly_sendValue hread hf _ _ _ _).bind fun receipt => ?_
    exact (orderly_report _).bind fun _ => orderly_pure _

theorem orderly_frontrun (contract : Address) (arguments : Frontrun) :
    Orderly scheme c signer (f.frontrun contract arguments) := by
  refine (orderly_ofExcept (fun _ => id) _).bind fun payload => ?_
  exact (orderly_report _).bind fun _ => orderly_sendValue hread hf _ _ _ _

theorem orderly_destroy (contract : Address) :
    Orderly scheme c signer (f.destroy contract) := by
  refine (orderly_ofExcept (fun _ => id) _).bind fun payload => ?_
  exact (orderly_report _).bind fun _ => orderly_sendValue hread hf _ _ _ _

theorem orderly_topUp (recipient : Address) (value : UInt256) :
    Orderly scheme c signer (f.topUp recipient value) :=
  (orderly_report _).bind fun _ => orderly_sendValue hread hf _ _ _ _

end

theorem orderly_deploy (hread : signer.ReadBack scheme) (hash : Bytes → Word) {d : Deployer}
    (hd : d.sequencer = ownSequencer c signer) (salt : Word) (bytecode initData : Bytes) :
    Orderly scheme c signer (d.deploy hash salt bytecode initData) := by
  rw [Deployer.deploy]
  refine Orderly.when (orderly_throw id) fun _ => ?_
  refine Orderly.when (orderly_report _) fun _ => ?_
  refine (orderly_report _).bind fun _ => ?_
  have hsend : Orderly scheme c signer
      (d.sequencer.send d.factory (Abi.deploy salt bytecode initData) d.policy d.gasLimit) := by
    rw [hd]
    exact orderly_send hread ⟨d.factory, _, 0, d.policy, d.gasLimit⟩
  refine hsend.adapt.bind fun receipt => ?_
  split
  · exact orderly_throw id
  · refine Orderly.when (orderly_report _) fun _ => ?_
    exact (orderly_report _).bind fun _ => orderly_pure _

/-- Every errand of an account that is the only one to send for itself is orderly. -/
theorem orderly_operation (hread : signer.ReadBack scheme) (hash : Bytes → Word) (errand : Errand) :
    Orderly scheme c signer (errand.operation hash (ownSequencer c signer)) := by
  cases errand with
  | send d => exact (orderly_send hread d).bind fun _ => orderly_pure _
  | fund f contract amount =>
    exact (orderly_fund hread rfl contract amount).bind fun _ => orderly_pure _
  | recover f contract => exact (orderly_recover hread rfl contract).bind fun _ => orderly_pure _
  | frontrun f contract arguments =>
    exact (orderly_frontrun hread rfl contract arguments).bind fun _ => orderly_pure _
  | destroy f contract => exact (orderly_destroy hread rfl contract).bind fun _ => orderly_pure _
  | topUp f recipient value =>
    exact (orderly_topUp hread rfl recipient value).bind fun _ => orderly_pure _
  | deploy d salt bytecode initData =>
    exact (orderly_deploy hread hash rfl salt bytecode initData).bind fun _ => orderly_pure _

/-! ### One errand after another -/

structure Report where
  result : Except Failure Unit
  scenes : List Scene

def perform (scheme : Scheme) (c : Settings) (signer : Signer) (errand : Errand) (stage : Stage) :
    Report × Stage :=
  let o := (errand.operation scheme.digest (ownSequencer c signer)).run.run
    (attend scheme c signer) { stage with scenes := [] }
  (⟨o.result, o.state.scenes⟩, o.state)

def performAll (scheme : Scheme) (c : Settings) (signer : Signer) :
    List Errand → Stage → List Report × Stage
  | [], stage => ([], stage)
  | errand :: errands, stage =>
    let (report, stage) := perform scheme c signer errand stage
    let (reports, stage) := performAll scheme c signer errands stage
    (report :: reports, stage)

def Scene.taken? (scheme : Scheme) (c : Settings) (signer : Signer) (scene : Scene) :
    Option SignedTransaction :=
  Chain.taken? scheme (.acted scene.act (reply scheme c signer scene.act scene.chain).1)

/-- The transactions that the errands have had taken, in order. -/
def accepted (scheme : Scheme) (c : Settings) (signer : Signer) (reports : List Report) :
    List SignedTransaction :=
  (reports.flatMap Report.scenes).filterMap (Scene.taken? scheme c signer)

theorem Scene.Fair.sentBy_taken? {scene : Scene} (h : scene.Fair scheme c signer.address) :
    sentBy scheme signer.address (scene.taken? scheme c signer).toList =
      (scene.taken? scheme c signer).toList := by
  cases htaken : scene.taken? scheme c signer with
  | none => rfl
  | some signed =>
    obtain ⟨raw, hash, hasked, hdecode⟩ := exists_of_taken?_eq_some htaken
    have hact : scene.act = .query (.sendRaw raw) := (Program.Moment.acted.inj hasked).1
    rw [Scene.Fair, hact] at h
    obtain ⟨⟨signed', hdecode', hsender⟩, -⟩ := h
    cases hdecode'.symm.trans hdecode
    simp [sentBy, hsender]

/-- What happens in between is not the account's, and what is taken in the scenes is. -/
theorem Along.numbered {s s' start : State} {ms : List Moment} {scenes : List Scene}
    {taken : List SignedTransaction} (h : Along scheme c signer s ms scenes s')
    (hfair : AllFair scheme c signer.address scenes) (hs : Numbered scheme start s taken) :
    ∃ more, Numbered scheme start s' (taken ++ more) ∧
      sentBy scheme signer.address more = scenes.filterMap (Scene.taken? scheme c signer) := by
  induction h generalizing taken with
  | nil s => exact ⟨[], by rwa [List.append_nil], rfl⟩
  | reported _ ih => exact ih hfair hs
  | @acted s found s' act ms scenes haside _ ih =>
    obtain ⟨hact, hrest⟩ := List.forall_mem_cons.mp hfair
    obtain ⟨others, hothers, hnone⟩ := haside.numbered hs
    obtain ⟨more, hmore, hsent⟩ := ih hrest (hothers.step (effect_reply scheme c signer act found))
    rw [List.append_assoc, List.append_assoc] at hmore
    refine ⟨_, hmore, ?_⟩
    rw [sentBy_append, hnone, List.nil_append, sentBy_append, hsent]
    have hown := hact.sentBy_taken?
    rw [Scene.taken?] at hown
    rw [hown, List.filterMap_cons, Scene.taken?]
    cases Chain.taken? scheme (.acted act (reply scheme c signer act found).1) with
    | none => rfl
    | some signed => rfl

/-- What holds of errands that have been run one after another. -/
structure Unhindered (scheme : Scheme) (c : Settings) (signer : Signer) (start s : State)
    (reports : List Report) : Prop where
  /-- The transactions that are the account's are those that its errands have had taken. -/
  submitted : ∃ taken, s.submitted = start.submitted ++ taken ∧
    sentBy scheme signer.address taken = accepted scheme c signer reports
  /-- With room for them, they bear consecutive nonces. -/
  consecutive : (start.nonces.getD signer.address 0).toNat +
      (accepted scheme c signer reports).length < UInt64.size →
    (accepted scheme c signer reports).map (·.transaction.nonce.toNat) =
        List.range' (start.nonces.getD signer.address 0).toNat
          (accepted scheme c signer reports).length ∧
      (s.nonces.getD signer.address 0).toNat = (start.nonces.getD signer.address 0).toNat +
        (accepted scheme c signer reports).length
  /-- Nothing is refused that is not scripted to be. -/
  fair (report : Report) : report ∈ reports → AllFair scheme c signer.address report.scenes
  /-- No errand ends in a refusal or in the loss of a receipt that is not scripted. -/
  scripted (report : Report) : report ∈ reports →
    ∀ failure, report.result = .error failure → Scripted report.scenes failure

theorem numbered_perform (hread : signer.ReadBack scheme) (errand : Errand) (stage : Stage)
    (hforeign : ∀ ds ∈ stage.agenda, ∀ d ∈ ds, d.Foreign scheme signer.address)
    {start : State} {taken : List SignedTransaction}
    (hs : Numbered scheme start stage.chain taken) :
    let o := perform scheme c signer errand stage
    (∃ more, Numbered scheme start o.2.chain (taken ++ more) ∧
      sentBy scheme signer.address more = o.1.scenes.filterMap (Scene.taken? scheme c signer)) ∧
    (AllFair scheme c signer.address o.1.scenes ∧
      ∀ failure, o.1.result = .error failure → Scripted o.1.scenes failure) ∧
    o.2.agenda <:+ stage.agenda := by
  intro o
  let operation := errand.operation scheme.digest (ownSequencer c signer)
  obtain ⟨scenes, hscenes, halong, hagenda⟩ :=
    along_run (c := c) operation.run { stage with scenes := [] } hforeign
  rw [List.nil_append] at hscenes
  have horderly : Orderly scheme c signer operation := orderly_operation hread scheme.digest errand
  obtain ⟨hfair, hscripted⟩ := horderly (Program.runs_run _ _ _) halong
  obtain ⟨more, hmore, hsent⟩ := halong.numbered hfair hs
  have ho : o.1.scenes = scenes := hscenes
  rw [ho]
  exact ⟨⟨more, hmore, hsent⟩, ⟨hfair, hscripted⟩, hagenda⟩

theorem numbered_performAll (hread : signer.ReadBack scheme) (errands : List Errand)
    (stage : Stage) (hforeign : ∀ ds ∈ stage.agenda, ∀ d ∈ ds, d.Foreign scheme signer.address)
    {start : State} {taken : List SignedTransaction}
    (hs : Numbered scheme start stage.chain taken) :
    let o := performAll scheme c signer errands stage
    (∃ more, Numbered scheme start o.2.chain (taken ++ more) ∧
      sentBy scheme signer.address more = accepted scheme c signer o.1) ∧
    ∀ report ∈ o.1, AllFair scheme c signer.address report.scenes ∧
      ∀ failure, report.result = .error failure → Scripted report.scenes failure := by
  induction errands generalizing stage taken with
  | nil => exact ⟨⟨[], by rwa [List.append_nil], rfl⟩, List.forall_mem_nil _⟩
  | cons errand errands ih =>
    obtain ⟨⟨more, hmore, hsent⟩, hreport, hagenda⟩ :=
      numbered_perform hread errand stage hforeign hs
    obtain ⟨⟨more', hmore', hsent'⟩, hreports⟩ :=
      ih (perform scheme c signer errand stage).2
        (fun ds hds => hforeign ds (hagenda.subset hds)) hmore
    rw [List.append_assoc] at hmore'
    refine ⟨⟨more ++ more', hmore', ?_⟩, List.forall_mem_cons.mpr ⟨hreport, hreports⟩⟩
    rw [sentBy_append, hsent, hsent', accepted, accepted, performAll, List.flatMap_cons,
      List.filterMap_append]

/-- Whatever others do on the chain, as long as they do not sign for the account: its errands are
not hindered by one another. -/
theorem unhindered_performAll (scheme : Scheme) (c : Settings) (signer : Signer)
    (hread : signer.ReadBack scheme) (errands : List Errand) (start : State)
    (agenda : List (List Disturbance))
    (hforeign : ∀ ds ∈ agenda, ∀ d ∈ ds, d.Foreign scheme signer.address) :
    let o := performAll scheme c signer errands { chain := start, agenda }
    Unhindered scheme c signer start o.2.chain o.1 := by
  intro o
  obtain ⟨⟨taken, hnumbered, hsent⟩, hreports⟩ :=
    numbered_performAll (c := c) hread errands { chain := start, agenda } hforeign numbered_start
  rw [List.nil_append] at hnumbered
  exact {
    submitted := ⟨taken, hnumbered.submitted, hsent⟩
    consecutive := fun hroom => by
      have h := hnumbered.consecutive signer.address
      rw [hsent] at h
      exact h hroom
    fair := fun report hreport => (hreports report hreport).1
    scripted := fun report hreport => (hreports report hreport).2 }

/-! ### A refusal, a loss and a success -/

def relayTransfer : SignedDispatch where
  dispatch := World.raceDispatch
  nonce := 8
  signature := {
    odd := true
    r := 0x4852da4bdba4dc86fe75241d57911a05a12531f3e531467c6baf0b03c8144f74
    s := 0x570b433ad19b6d3f86b11a1a6c221acb35e1dff60b887768ceb050d09e2b9360 }
  hash := Octets.ofNat 32 0x2c922cc3ad26606b2531350032102b7d770980d8ea5adb3ebe624dd405d9111d

def relayScheme : Scheme := schemeOf [World.raceTransfer, relayTransfer]

def relayer : Signer := signerOf [World.raceTransfer, relayTransfer]

theorem relayer_readBack : relayer.ReadBack relayScheme := readBack_signerOf (by decide +kernel)

/-- The first transfer is to be refused, and the receipt of the second is to be lost. -/
def relayAgenda : List (List Disturbance) :=
  [[.rejectNext "busy"], [], [], [.loseNextReceipt "gone"]]

def relay : List Report × Stage :=
  performAll relayScheme {} relayer (List.replicate 3 (.send World.raceDispatch))
    { chain := World.raceStart, agenda := relayAgenda }

/-- The transfer after the one that is refused bears its nonce, and the one after that the next. -/
theorem unhindered_relay :
    relayer.ReadBack relayScheme ∧
      (∀ ds ∈ relayAgenda, ∀ d ∈ ds, d.Foreign relayScheme relayer.address) ∧
      Unhindered relayScheme {} relayer World.raceStart relay.2.chain relay.1 ∧
      relay.1.map Report.result = [.error (.submissionRejected 7 (.other "busy")),
        .error (.receiptUnavailable World.raceTransfer.hash 7 (.other "gone")), .ok ()] ∧
      accepted relayScheme {} relayer relay.1 =
        [World.raceTransfer.signed, relayTransfer.signed] := by
  have hforeign : ∀ ds ∈ relayAgenda, ∀ d ∈ ds, d.Foreign relayScheme relayer.address := by
    simp [relayAgenda, Disturbance.Foreign]
  exact ⟨relayer_readBack, hforeign,
    unhindered_performAll relayScheme {} relayer relayer_readBack _ World.raceStart relayAgenda
      hforeign, by decide +kernel, by decide +kernel⟩

end Sandwich.Chain
