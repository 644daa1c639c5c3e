import Sandwich.Deployment
import Sandwich.Proofs.Abi
import Sandwich.Proofs.Sequencer.Calls

/-! What a deployment reports. It is the sending of one transaction to the factory, and
ends in what the first event of the factory says. What other contracts have to say does
not matter, nor what the factory says later on. -/

namespace Sandwich

/-! ### The address that an event names -/

/-- The first argument of the event is the address: its second topic if it has one, else the
first word of its data. -/
def Log.Names (log : Log) (a : Address) : Prop :=
  match log.topics with
  | _ :: topic :: _ => topic.toBytes = List.replicate 12 0 ++ a.toBytes
  | _ => List.replicate 12 0 ++ a.toBytes <+: log.data

theorem Word.toAddress_eq_iff {word : Word} {a : Address} :
    word.toBytes.take 12 = List.replicate 12 0 ∧ word.toAddress = a ↔
      word.toBytes = List.replicate 12 0 ++ a.toBytes := by
  constructor
  · rintro ⟨hzeros, rfl⟩
    rw [← hzeros]
    exact (List.take_append_drop 12 word.toBytes).symm
  · intro h
    refine ⟨?_, Octets.ext ?_⟩
    · rw [h, List.take_left' List.length_replicate]
    · change word.toBytes.drop 12 = _
      rw [h, List.drop_left' List.length_replicate]

theorem ofBytes?_take_eq_some_iff {data : Bytes} {word : Word} :
    Octets.ofBytes? 32 (data.take 32) = some word ↔ word.toBytes <+: data := by
  rw [Octets.ofBytes?]
  constructor
  · intro h
    split at h
    · cases h
      exact List.take_prefix 32 data
    · cases h
  · intro h
    have htake : data.take 32 = word.toBytes := by
      rw [List.prefix_iff_eq_take.mp h, word.length_toBytes]
    rw [dif_pos (htake ▸ word.length_toBytes)]
    exact congrArg some (Octets.ext htake)

theorem Log.deployedAddress?_eq_some_iff {log : Log} {a : Address} :
    log.deployedAddress? = some a ↔ log.Names a := by
  obtain ⟨address, topics, data⟩ := log
  have hword (word : Word) :
      (if word.toBytes.take 12 = List.replicate 12 0 then some word.toAddress else none) = some a ↔
        word.toBytes = List.replicate 12 0 ++ a.toBytes := by
    rw [← Word.toAddress_eq_iff, Option.ite_none_right_eq_some, Option.some_inj]
  have hdata : ((Octets.ofBytes? 32 (data.take 32)).bind fun word : Word =>
      if word.toBytes.take 12 = List.replicate 12 0 then some word.toAddress else none) = some a ↔
        List.replicate 12 0 ++ a.toBytes <+: data := by
    rw [Option.bind_eq_some_iff]
    constructor
    · rintro ⟨word, hbytes, h⟩
      rw [← (hword word).mp h]
      exact ofBytes?_take_eq_some_iff.mp hbytes
    · intro h
      exact ⟨a.toWord, ofBytes?_take_eq_some_iff.mpr h, (hword a.toWord).mpr rfl⟩
  match topics with
  | [] => exact hdata
  | [_] => exact hdata
  | _ :: topic :: _ => exact hword topic

namespace Deployer

/-- The first event of the factory names the address. -/
def Names (d : Deployer) (logs : List Log) (a : Address) : Prop :=
  ∃ before log after, logs = before ++ log :: after ∧
    (∀ other ∈ before, other.address ≠ d.factory) ∧ log.address = d.factory ∧ log.Names a

variable {d : Deployer} {salt : Word} {bytecode initData : Bytes} {hash : Bytes → Word}

theorem reportedAddress?_eq_some_iff {receipt : Receipt} {a : Address} :
    d.reportedAddress? receipt = some a ↔ d.Names receipt.logs a := by
  simp only [reportedAddress?, Option.bind_eq_some_iff, Log.deployedAddress?_eq_some_iff,
    List.find?_eq_some_iff_append, decide_eq_true_eq, Bool.not_eq_true', decide_eq_false_iff_not]
  constructor
  · rintro ⟨log, ⟨hlog, before, after, hlogs, hbefore⟩, hnames⟩
    exact ⟨before, log, after, hlogs, hbefore, hlog, hnames⟩
  · rintro ⟨before, log, after, hlogs, hbefore, hlog, hnames⟩
    exact ⟨log, ⟨hlog, before, after, hlogs, hbefore⟩, hnames⟩

/-- Only the first event of the factory counts. -/
theorem reportedAddress?_congr {receipt receipt' : Receipt}
    (h : (receipt'.logs.filter (·.address = d.factory)).head? =
      (receipt.logs.filter (·.address = d.factory)).head?) :
    d.reportedAddress? receipt' = d.reportedAddress? receipt := by
  rw [List.head?_filter, List.head?_filter] at h
  rw [reportedAddress?, h, reportedAddress?]

/-! ### What surrounds the sending -/

def sending (d : Deployer) (salt : Word) (bytecode initData : Bytes) : Operation Receipt :=
  d.sequencer.sendValue d.factory (Abi.deploy salt bytecode initData) 0 d.policy d.gasLimit

def opening (hash : Bytes → Word) (d : Deployer) (salt : Word) (bytecode : Bytes) : List Event :=
  (if d.hasForeignSalt salt then [.foreignSalt salt (saltOwner salt) d.sequencer.sender]
    else []) ++
    [.deploying d.factory salt (metamorphicAddress hash d.factory salt) bytecode.length]

/-- What is reported after the sending, and what a deployment comes to. -/
def concluded (hash : Bytes → Word) (d : Deployer) (salt : Word) :
    Except Failure Receipt → List Event × Except Failure Deployment
  | .error failure => ([], .error (deploymentFailure failure))
  | .ok receipt =>
    match d.reportedAddress? receipt with
    | none => ([], .error (.deployment .noEvent receipt.hash))
    | some address =>
      let predicted := metamorphicAddress hash d.factory salt
      ((if address ≠ predicted then [.unexpectedAddress address predicted] else []) ++
          [.deployed address receipt.hash receipt.gasUsed],
        .ok ⟨address, receipt.hash, receipt.gasUsed⟩)

variable {σ : Type} {surroundings : (act : Act) → σ → act.Reply × σ} {start : σ}

/-- What follows on the sending. -/
def finish (hash : Bytes → Word) (d : Deployer) (salt : Word) (receipt : Receipt) :
    Operation Deployment :=
  match d.reportedAddress? receipt with
  | none => throw (.deployment .noEvent receipt.hash)
  | some address => do
    let predicted := metamorphicAddress hash d.factory salt
    if address ≠ predicted then Operation.report (.unexpectedAddress address predicted)
    Operation.report (.deployed address receipt.hash receipt.gasUsed)
    return { address, hash := receipt.hash, gasUsed := receipt.gasUsed }

theorem run_finish (receipt : Receipt) :
    (finish hash d salt receipt).run.run surroundings start =
      let (events, result) := concluded hash d salt (.ok receipt)
      ⟨events.map .reported, result, start⟩ := by
  rw [finish, concluded]
  cases d.reportedAddress? receipt with
  | none => rfl
  | some address =>
    simp only
    split <;> rfl

theorem run_deploy (hbytecode : bytecode ≠ []) :
    (d.deploy hash salt bytecode initData).run.run surroundings start =
      let o := (d.sending salt bytecode initData).run.run surroundings start
      let (events, result) := concluded hash d salt o.result
      ⟨(opening hash d salt bytecode).map .reported ++ (o.moments ++ events.map .reported),
        result, o.state⟩ := by
  let deploying : Event :=
    .deploying d.factory salt (metamorphicAddress hash d.factory salt) bytecode.length
  let sent : Operation Deployment :=
    ExceptT.adapt deploymentFailure (d.sending salt bytecode initData) >>= finish hash d salt
  have hsent : sent.run.run surroundings start =
      let o := (d.sending salt bytecode initData).run.run surroundings start
      let (events, result) := concluded hash d salt o.result
      ⟨o.moments ++ events.map .reported, result, o.state⟩ := by
    rw [Operation.run_adapt_bind]
    cases h : ((d.sending salt bytecode initData).run.run surroundings start).result with
    | error failure => simp only [h, concluded, List.map_nil, List.append_nil]
    | ok receipt => simp only [h, run_finish]
  rw [deploy, if_neg (by simpa using hbytecode), opening]
  by_cases hforeign : d.hasForeignSalt salt
  · rw [if_pos hforeign, if_pos hforeign]
    change (Program.report _ (.report deploying sent.run)).run surroundings start = _
    rw [Program.run, Program.run, hsent]
    rfl
  · rw [if_neg hforeign, if_neg hforeign]
    change (Program.report deploying sent.run).run surroundings start = _
    rw [Program.run, hsent]
    rfl

/-! ### What a deployment reports -/

theorem saltOwner_eq_iff {a : Address} : saltOwner salt = a ↔ salt.toBytes.take 20 = a.toBytes := by
  have hleading : salt.toBytes.leading 20 = salt.toBytes.take 20 := by
    rw [Bytes.leading, List.take_append_of_le_length (by rw [salt.length_toBytes]; decide)]
  rw [← hleading]
  exact Octets.ext_iff

def saltWarning : String :=
  "Salt is not prefixed by the deployer address, the factory may reject it"

/-- What a deployment has done and reports, by what came of the sending. -/
structure Reports (d : Deployer) (salt : Word) (bytecode initData : Bytes)
    (sent : Program.Outcome Act.Reply σ (Except Failure Receipt))
    (o : Program.Outcome Act.Reply σ (Except Failure Deployment)) : Prop where
  /-- The calls are those of the sending, and they leave what the sending leaves. -/
  calls : Program.calls o.moments = Program.calls sent.moments ∧ o.state = sent.state
  /-- What is to be signed is a call to the factory that deploys, without value. -/
  request (request : Transaction.Request) : .sign request ∈ o.actions →
    request.receiver = some d.factory ∧ request.value = some 0 ∧
      (Abi.Fits bytecode initData →
        Abi.deploy? request.input = some (salt, bytecode, initData))
  /-- It succeeds if the transaction does and the first event of the factory names an address. -/
  deployed (deployment : Deployment) : o.result = .ok deployment ↔
    ∃ receipt, sent.result = .ok receipt ∧ d.Names receipt.logs deployment.address ∧
      deployment.hash = receipt.hash ∧ deployment.gasUsed = receipt.gasUsed
  /-- It fails if that event names none, or if the sending fails, and but for the failure of a
  transaction that is reverted the failure stays what it is. -/
  failed (failure : Failure) : o.result = .error failure ↔
    (∃ receipt, sent.result = .ok receipt ∧ (∀ a, ¬ d.Names receipt.logs a) ∧
      failure = .deployment .noEvent receipt.hash) ∨
    (∃ hash gasUsed, sent.result = .error (.reverted hash gasUsed) ∧
      failure = .deployment (.reverted gasUsed) hash) ∨
    sent.result = .error failure ∧ ∀ hash gasUsed, failure ≠ .reverted hash gasUsed
  /-- There is a warning if the salt starts with neither the address of the deployer nor zeros. -/
  warned : o.events.filter (·.message = saltWarning) =
    if salt.toBytes.take 20 ≠ d.sequencer.sender.toBytes ∧
        salt.toBytes.take 20 ≠ List.replicate 20 0 then
      [.foreignSalt salt (saltOwner salt) d.sequencer.sender]
    else []

theorem concluded_eq_ok_iff {result : Except Failure Receipt} {deployment : Deployment} :
    (concluded hash d salt result).2 = .ok deployment ↔
      ∃ receipt, result = .ok receipt ∧ d.Names receipt.logs deployment.address ∧
        deployment.hash = receipt.hash ∧ deployment.gasUsed = receipt.gasUsed := by
  cases result with
  | error failure => simp [concluded]
  | ok receipt =>
    obtain ⟨address, deployedHash, gasUsed⟩ := deployment
    rw [concluded]
    simp only [Except.ok.injEq, exists_eq_left', ← reportedAddress?_eq_some_iff]
    cases d.reportedAddress? receipt with
    | none => simp
    | some reported =>
      simp only [Except.ok.injEq, Deployment.mk.injEq, Option.some_inj]
      exact and_congr_right fun _ => and_congr eq_comm eq_comm

theorem concluded_eq_error_iff {result : Except Failure Receipt} {failure : Failure} :
    (concluded hash d salt result).2 = .error failure ↔
      (∃ receipt, result = .ok receipt ∧ (∀ a, ¬ d.Names receipt.logs a) ∧
        failure = .deployment .noEvent receipt.hash) ∨
      (∃ hash gasUsed, result = .error (.reverted hash gasUsed) ∧
        failure = .deployment (.reverted gasUsed) hash) ∨
      result = .error failure ∧ ∀ hash gasUsed, failure ≠ .reverted hash gasUsed := by
  cases result with
  | ok receipt =>
    rw [concluded]
    simp only [Except.ok.injEq, exists_eq_left', ← reportedAddress?_eq_some_iff, reduceCtorEq,
      false_and, exists_false, or_false]
    cases d.reportedAddress? receipt with
    | none => simp [eq_comm]
    | some address => simp
  | error e =>
    rw [concluded]
    simp only [reduceCtorEq, false_and, exists_false, false_or, Except.error.injEq]
    constructor
    · rintro rfl
      cases e with
      | reverted revertedHash gasUsed => exact .inl ⟨revertedHash, gasUsed, rfl, rfl⟩
      | _ => exact .inr ⟨rfl, nofun⟩
    · rintro (⟨revertedHash, gasUsed, rfl, rfl⟩ | ⟨rfl, hother⟩)
      · rfl
      · cases e with
        | reverted revertedHash gasUsed => exact absurd rfl (hother revertedHash gasUsed)
        | _ => rfl

/-- The events that the sending of a transaction can report. -/
def Ordinary : Event → Prop
  | .building .. | .signed _ | .submitted _ _ | .reverted _ _ | .confirmed _ _ => True
  | _ => False

theorem ordinary_of_course {d : Dispatch} {s : Sequencer} {a : Dispatch.Answers}
    {ms : List Operation.Moment} {result : Except Failure Receipt} (h : d.Course s a ms result) :
    ∀ event, .reported event ∈ ms → Ordinary event := by
  cases h with
  | uncounted e => simp
  | unsettled h =>
    intro event hevent
    obtain ⟨_, heq⟩ | ⟨_, heq⟩ := h.eq_of_mem ((List.mem_cons.mp hevent).resolve_left nofun)
    · cases heq
    · cases heq
  | unsigned | rejected | lost | reverted | confirmed =>
    simp [Ordinary, or_imp, forall_and]

theorem message_ne_of_ordinary {event : Event} (h : Ordinary event) :
    event.message ≠ saltWarning := by
  cases event with
  | building | signed | submitted | reverted | confirmed => simp [Event.message, saltWarning]
  | _ => exact h.elim

theorem message_ne_of_mem_concluded {result : Except Failure Receipt} {event : Event}
    (h : event ∈ (concluded hash d salt result).1) : event.message ≠ saltWarning := by
  cases result with
  | error failure => cases h
  | ok receipt =>
    rw [concluded] at h
    cases hreported : d.reportedAddress? receipt with
    | none => simp [hreported] at h
    | some address =>
      have hevent : event = .unexpectedAddress address (metamorphicAddress hash d.factory salt) ∨
          event = .deployed address receipt.hash receipt.gasUsed := by
        simp only [hreported, List.mem_append, List.mem_singleton] at h
        refine h.imp_left fun hmem => ?_
        split at hmem
        · exact List.mem_singleton.mp hmem
        · cases hmem
      obtain rfl | rfl := hevent
      · simp [Event.message, saltWarning]
      · simp [Event.message, saltWarning]

theorem hasForeignSalt_iff : d.hasForeignSalt salt ↔
    salt.toBytes.take 20 ≠ d.sequencer.sender.toBytes ∧
      salt.toBytes.take 20 ≠ List.replicate 20 0 := by
  simp only [hasForeignSalt, Bool.and_eq_true, decide_eq_true_eq, ne_eq, saltOwner_eq_iff,
    Octets.zero]

theorem filter_saltWarning {events closing : List Event}
    (hevents : ∀ event ∈ events, event.message ≠ saltWarning)
    (hclosing : ∀ event ∈ closing, event.message ≠ saltWarning) :
    (opening hash d salt bytecode ++ (events ++ closing)).filter (·.message = saltWarning) =
      if salt.toBytes.take 20 ≠ d.sequencer.sender.toBytes ∧
          salt.toBytes.take 20 ≠ List.replicate 20 0 then
        [.foreignSalt salt (saltOwner salt) d.sequencer.sender]
      else [] := by
  have hrest : (events ++ closing).filter (·.message = saltWarning) = [] := by
    rw [List.filter_eq_nil_iff, List.forall_mem_append]
    simpa using ⟨hevents, hclosing⟩
  rw [List.filter_append, hrest, List.append_nil, opening]
  simp only [hasForeignSalt_iff]
  split
  · rfl
  · rfl

/-- However the node and the signer behave, a deployment of some bytecode is the sending of one
transaction to the factory. It reports what came of that and what the first event of the factory
names, and nothing else that happens makes a difference. -/
theorem deploy_reports (hash : Bytes → Word) (d : Deployer) (salt : Word) {bytecode : Bytes}
    (hbytecode : bytecode ≠ []) (initData : Bytes) {σ : Type}
    (surroundings : (act : Act) → σ → act.Reply × σ) (start : σ) :
    let sent := (d.sending salt bytecode initData).run.run surroundings start
    let o := (d.deploy hash salt bytecode initData).run.run surroundings start
    d.Reports salt bytecode initData sent o ∧
      ∀ (surroundings' : (act : Act) → σ → act.Reply × σ) (start' : σ) (receipt receipt' : Receipt),
        sent.result = .ok receipt →
        ((d.sending salt bytecode initData).run.run surroundings' start').result = .ok receipt' →
        receipt'.hash = receipt.hash → receipt'.gasUsed = receipt.gasUsed →
        (receipt'.logs.filter (·.address = d.factory)).head? =
          (receipt.logs.filter (·.address = d.factory)).head? →
        ((d.deploy hash salt bytecode initData).run.run surroundings' start').result =
          o.result := by
  intro sent o
  have ho : o = _ := run_deploy hbytecode
  obtain ⟨a, hcourse⟩ := Dispatch.course_of_runs
    (d := ⟨d.factory, Abi.deploy salt bytecode initData, 0, d.policy, d.gasLimit⟩)
    (s := d.sequencer) (Program.runs_run surroundings (d.sending salt bytecode initData).run start)
  have hcalls : Program.calls o.moments = Program.calls sent.moments := by
    rw [ho]
    simp only [Program.calls_append, Program.calls_map_reported, List.nil_append, List.append_nil,
      sent]
  refine ⟨⟨⟨hcalls, ?_⟩, ?_, ?_, ?_, ?_⟩, ?_⟩
  · rw [ho]
  · intro request hrequest
    have hsigned : .sign request ∈ sent.actions := by
      rwa [Program.Outcome.actions_eq, ← hcalls, ← Program.Outcome.actions_eq]
    obtain ⟨reply, hsigned⟩ := Program.Outcome.mem_actions_iff.mp hsigned
    obtain ⟨rfl, -⟩ := Dispatch.settled_of_signed hcourse hsigned
    rw [Dispatch.request.eq_def]
    cases a.fees <;> exact ⟨rfl, rfl, fun hfits => Abi.deploy?_deploy hfits salt⟩
  · intro deployment
    rw [ho]
    exact concluded_eq_ok_iff
  · intro failure
    rw [ho]
    exact concluded_eq_error_iff
  · rw [ho, Program.Outcome.events_eq]
    simp only [Program.events_append, Program.events_map_reported]
    refine filter_saltWarning (fun event hevent => ?_) fun event => message_ne_of_mem_concluded
    exact message_ne_of_ordinary
      (ordinary_of_course hcourse event (Program.mem_events_iff.mp hevent))
  · intro surroundings' start' receipt receipt' hsent hsent' hhash hgasUsed hfirst
    rw [ho, run_deploy hbytecode]
    have hreported := reportedAddress?_congr hfirst
    simp only [sent] at hsent
    simp only [hsent, hsent', concluded, hreported]
    cases d.reportedAddress? receipt with
    | none => simp only [hhash]
    | some address => simp only [hhash, hgasUsed]

/-- A node that takes every transaction and then says that it has come to the receipt. -/
def replying (receipt : Receipt) (act : Act) (_ : Unit) : act.Reply × Unit :=
  match act with
  | .query (.transactionCount _) => (.ok 7, ())
  | .query (.sendRaw _) => (.ok receipt.hash, ())
  | .query (.awaitReceipt _) => (.ok receipt, ())
  | .query _ => (.error (.other "no answer"), ())
  | .sign _ => (.ok [1], ())

/-- Events of another contract and more of the factory do not change which address is reported. -/
theorem deploy_reports_noisy :
    let d : Deployer := ⟨⟨Octets.ofNat 20 1, 31337⟩, mainnetFactory, .legacy (some 5), 1000000⟩
    let salt : Word := Octets.ofNat 32 9
    let event (a b : Nat) : Log := ⟨Octets.ofNat 20 a, [], (Octets.ofNat 32 b).toBytes⟩
    let own (b : Nat) : Log := { event 0 b with address := mainnetFactory }
    let receipt (logs : List Log) : Receipt := ⟨salt, true, 70000, logs⟩
    let run (logs : List Log) :=
      (d.deploy (fun _ => salt) salt [1, 2] []).run.run (replying (receipt logs)) ()
    let sent := (d.sending salt [1, 2] []).run.run (replying (receipt [own 5])) ()
    d.Reports salt [1, 2] [] sent (run [own 5]) ∧
      (run [own 5]).result = .ok ⟨Octets.ofNat 20 5, salt, 70000⟩ ∧
      (run [event 2 3, own 5, event 2 4, own 6]).result = (run [own 5]).result := by
  intro d salt event own receipt run sent
  have h := deploy_reports (fun _ => salt) d salt (show ([1, 2] : Bytes) ≠ [] by decide) []
    (replying (receipt [own 5])) ()
  refine ⟨h.1, by decide +kernel, ?_⟩
  exact h.2 (replying (receipt [event 2 3, own 5, event 2 4, own 6])) () (receipt [own 5])
    (receipt [event 2 3, own 5, event 2 4, own 6]) rfl rfl rfl rfl (by decide +kernel)

end Deployer

end Sandwich
