import Sandwich.Command.Run
import Sandwich.Proofs.Abi
import Sandwich.Proofs.Order
import Sandwich.Proofs.Sequencer.InTurn

/-! What the operations on a contract do. Each has a plan: the transactions that go
out one after another if all goes well. Whatever the node and the signer reply, an
operation asks the signer for a first part of its plan and for nothing else, and the
result is that of the last transaction. On the command line, an order with an opcode
of its own takes another path to the same calls. -/

namespace Sandwich

open Operation
open Program (Call calls)

inductive Flow
  | fund (contract : Address) (amount : UInt256)
  | recover (contract : Address)
  | frontrun (contract : Address) (arguments : Frontrun)
  | destroy (contract : Address)
  | topUp (recipient : Address) (value : UInt256)
deriving DecidableEq

namespace Flow

abbrev Result : Flow → Type
  | fund _ _ => Funding
  | recover _ => Recovery
  | frontrun _ _ | destroy _ | topUp _ _ => Receipt

def operation (f : Flows) : (x : Flow) → Operation x.Result
  | fund contract amount => f.fund contract amount
  | recover contract => f.recover contract
  | frontrun contract arguments => f.frontrun contract arguments
  | destroy contract => f.destroy contract
  | topUp recipient value => f.topUp recipient value

def receipts : (x : Flow) → x.Result → List Receipt
  | fund _ _, funding => [funding.wrap, funding.transfer]
  | recover _, recovery => [recovery.receipt]
  | frontrun _ _, receipt | destroy _, receipt | topUp _ _, receipt => [receipt]

def dispatch (f : Flows) (receiver : Address) (input : Bytes) (value : UInt256) : Dispatch :=
  ⟨receiver, input, value, f.policy, f.gasLimit⟩

/-- What is asked ahead of the first transaction. -/
def preface (f : Flows) (balance : Except ClientError Bytes) : Flow → List (Call Act.Reply)
  | recover contract => [⟨.query (.call f.wrapped (Abi.balanceOf contract)), balance⟩]
  | _ => []

/-- The transactions of an operation, given what the wrapped asset says about the balance of
the contract. Without a balance there is nothing to recover. -/
def plan (f : Flows) (balance : Except ClientError Bytes) : Flow → Except Failure (List Dispatch)
  | fund contract amount => .ok [
      dispatch f f.wrapped [0xd0, 0xe3, 0x0d, 0xb0] amount,
      dispatch f f.wrapped ([0xa9, 0x05, 0x9c, 0xbb] ++ List.replicate 12 0 ++ contract.toBytes ++
        Bytes.ofNat 32 amount.toNat) 0]
  | recover contract =>
    match balance with
    | .error e => .error (.read .wrappedBalance e)
    | .ok data =>
      if data.length < 32 then .error (.unexpectedBalance data)
      else if Bytes.toNat (data.take 32) = 0 then .error (.nothingToRecover contract)
      else .ok [dispatch f contract (66 :: data.take 32) 0]
  | frontrun contract arguments => .ok [dispatch f contract (arguments.payload 11) 0]
  | destroy contract => .ok [dispatch f contract [42] 0]
  | topUp recipient value => .ok [⟨recipient, [], value, f.policy, 21000⟩]

/-- The operation asks for `cs` and ends in `result` as planned. -/
def Pursues (f : Flows) (x : Flow) (balance : Except ClientError Bytes)
    (cs : List (Call Act.Reply)) (result : Except Failure (List Receipt)) : Prop :=
  match x.plan f balance with
  | .error failure => cs = x.preface f balance ∧ result = .error failure
  | .ok ds => ∃ rest, cs = x.preface f balance ++ rest ∧ Dispatch.InTurn f.sequencer ds rest result

theorem pursues_of_plan_eq_error {f : Flows} {x : Flow} {balance : Except ClientError Bytes}
    {failure : Failure} (h : x.plan f balance = .error failure) :
    Pursues f x balance (x.preface f balance) (.error failure) := by
  simp [Pursues, h]

theorem pursues_of_inTurn {f : Flows} {x : Flow} {balance : Except ClientError Bytes}
    {ds : List Dispatch} {cs : List (Call Act.Reply)} {result : Except Failure (List Receipt)}
    (h : x.plan f balance = .ok ds) (hinTurn : Dispatch.InTurn f.sequencer ds cs result) :
    Pursues f x balance (x.preface f balance ++ cs) result := by
  simpa [Pursues, h] using hinTurn

/-! ### Operations keep to their plans -/

variable {f : Flows} {ms : List Moment}

theorem inTurn_singleton {d : Dispatch} {s : Sequencer} {a : Dispatch.Answers}
    {result : Except Failure Receipt} (h : d.Course s a ms result) :
    Dispatch.InTurn s [d] (calls ms) (result.map ([·])) := by
  cases result with
  | error failure => exact .stopped [] h
  | ok receipt =>
    have hrest := Dispatch.InTurn.confirmed h .nil
    rwa [List.append_nil] at hrest

/-- A plan of one dispatch is kept to by sending it. -/
theorem inTurn_of_runs {d : Dispatch} {s : Sequencer} {result : Except Failure Receipt}
    (h : Runs (d.send s) ms result) : Dispatch.InTurn s [d] (calls ms) (result.map ([·])) := by
  obtain ⟨a, hcourse⟩ := Dispatch.course_of_runs h
  exact inTurn_singleton hcourse

/-- So it is if the sending is announced. -/
theorem inTurn_of_runs_report {event : Event} {d : Dispatch} {s : Sequencer}
    {result : Except Failure Receipt} (h : Runs (report event >>= fun _ => d.send s) ms result) :
    Dispatch.InTurn s [d] (calls ms) (result.map ([·])) := by
  obtain ⟨ms, rfl, hsend⟩ := runs_report_bind_iff.mp h
  change Dispatch.InTurn s [d] (calls ms) _
  exact inTurn_of_runs hsend

theorem inTurn_of_runs_fund {contract : Address} {amount : UInt256}
    {result : Except Failure Funding} (h : Runs (f.fund contract amount) ms result) :
    Dispatch.InTurn f.sequencer [dispatch f f.wrapped Abi.deposit amount,
        dispatch f f.wrapped (Abi.transfer contract amount) 0]
      (calls ms) (result.map (fund contract amount).receipts) := by
  let wrapping := dispatch f f.wrapped Abi.deposit amount
  let transferring := dispatch f f.wrapped (Abi.transfer contract amount) 0
  replace h : Runs (do
      report (.wrapping contract amount)
      let wrap ← wrapping.send f.sequencer
      report (.transferring contract amount)
      let transfer ← transferring.send f.sequencer
      return { wrap, transfer }) ms result := h
  obtain ⟨ms, rfl, hwrapping⟩ := runs_report_bind_iff.mp h
  obtain ⟨failure, hwrap, rfl⟩ | ⟨ms₁, wrap, ms₂, hwrap, hrest, rfl⟩ := runs_bind_iff.mp hwrapping
  · obtain ⟨a, hcourse⟩ := Dispatch.course_of_runs hwrap
    change Dispatch.InTurn _ _ (calls ms) _
    exact .stopped [transferring] hcourse
  obtain ⟨a, hcourse⟩ := Dispatch.course_of_runs hwrap
  obtain ⟨ms₃, rfl, htransferring⟩ := runs_report_bind_iff.mp hrest
  have hcalls : calls (.reported (.wrapping contract amount) ::
      (ms₁ ++ .reported (.transferring contract amount) :: ms₃)) = calls ms₁ ++ calls ms₃ := by
    simp [calls]
  rw [hcalls]
  obtain ⟨failure, htransfer, rfl⟩ | ⟨ms₄, transfer, ms₅, htransfer, hend, rfl⟩ :=
    runs_bind_iff.mp htransferring
  · exact .confirmed hcourse (inTurn_of_runs htransfer)
  · obtain ⟨rfl, rfl⟩ := runs_pure_iff.mp hend
    rw [List.append_nil]
    exact .confirmed hcourse (inTurn_of_runs htransfer)

def readBalance : Except ClientError Bytes → Except Failure UInt256
  | .error e => .error (.read .wrappedBalance e)
  | .ok data =>
    if data.length < 32 then .error (.unexpectedBalance data)
    else .ok (BitVec.ofNat 256 (Bytes.toNat (data.take 32)))

theorem runs_wrappedBalance {holder : Address} {result : Except Failure UInt256}
    (h : Runs (f.wrappedBalance holder) ms result) :
    ∃ balance, ms = [asked (.call f.wrapped (Abi.balanceOf holder)) balance] ∧
      result = readBalance balance := by
  obtain ⟨e, rfl, rfl⟩ | ⟨data, rest, rfl, hdata⟩ := runs_query_bind_iff.mp h
  · exact ⟨.error e, rfl, rfl⟩
  · rw [Abi.uint?_zero] at hdata
    by_cases hshort : data.length < 32
    · rw [if_pos hshort] at hdata
      obtain ⟨rfl, rfl⟩ := runs_throw_iff.mp hdata
      exact ⟨.ok data, rfl, (if_pos hshort).symm⟩
    · rw [if_neg hshort] at hdata
      obtain ⟨rfl, rfl⟩ := runs_pure_iff.mp hdata
      exact ⟨.ok data, rfl, (if_neg hshort).symm⟩

/-- The plan of a recovery in terms of the balance that was read. -/
theorem plan_recover (f : Flows) (balance : Except ClientError Bytes) (contract : Address) :
    (recover contract).plan f balance = readBalance balance >>= fun amount =>
      if amount = 0 then .error (.nothingToRecover contract)
      else .ok [dispatch f contract (66 :: Bytes.ofNat 32 amount.toNat) 0] := by
  match balance with
  | .error e => rfl
  | .ok data =>
    rw [plan, readBalance]
    by_cases hshort : data.length < 32
    · rw [if_pos hshort, if_pos hshort]
      rfl
    · have hlength : (data.take 32).length = 32 := by
        rw [List.length_take]
        omega
      have htoNat := Field.toNat_ofNat_of_length hlength le_rfl
      have hdigits : Bytes.ofNat 32 (Bytes.toNat (data.take 32)) = data.take 32 :=
        (Bytes.eq_ofNat_of_toNat hlength rfl).symm
      have hzero : BitVec.ofNat 256 (Bytes.toNat (data.take 32)) = 0 ↔
          Bytes.toNat (data.take 32) = 0 := by
        rw [← BitVec.toNat_inj, htoNat]
        rfl
      rw [if_neg hshort, if_neg hshort]
      change _ = if _ then _ else _
      simp only [hzero, htoNat, hdigits]

theorem recover_eq (f : Flows) (contract : Address) :
    f.recover contract = f.wrappedBalance contract >>= fun amount =>
      if amount = 0 then throw (.nothingToRecover contract)
      else do
        report (.recovering contract amount)
        let receipt ← (dispatch f contract (66 :: Bytes.ofNat 32 amount.toNat) 0).send f.sequencer
        report (.recovered contract amount receipt.hash)
        return { amount, receipt } := by
  rw [Flows.recover]
  refine bind_congr fun amount => ?_
  -- behind a name, the digits of the payload are not computed when both sides are compared
  rw [encodeRecover_eq]
  generalize Bytes.ofNat 32 amount.toNat = digits
  by_cases hzero : amount = 0
  · rw [if_pos hzero, if_pos hzero]
    rfl
  · rw [if_neg hzero, if_neg hzero]
    rfl

theorem pursues_of_runs_recover {contract : Address} {result : Except Failure Recovery}
    (h : Runs (f.recover contract) ms result) : ∃ balance,
      Pursues f (recover contract) balance (calls ms)
        (result.map (recover contract).receipts) := by
  rw [recover_eq] at h
  obtain ⟨failure, hbalance, rfl⟩ | ⟨ms₁, amount, ms₂, hbalance, hrest, rfl⟩ := runs_bind_iff.mp h
  · obtain ⟨balance, rfl, hread⟩ := runs_wrappedBalance hbalance
    refine ⟨balance, ?_⟩
    exact pursues_of_plan_eq_error (by rw [plan_recover, ← hread]; rfl)
  obtain ⟨balance, rfl, hread⟩ := runs_wrappedBalance hbalance
  refine ⟨balance, ?_⟩
  have hplan := plan_recover f balance contract
  rw [← hread] at hplan
  by_cases hzero : amount = 0
  · rw [if_pos hzero] at hrest
    obtain ⟨rfl, rfl⟩ := runs_throw_iff.mp hrest
    exact pursues_of_plan_eq_error (hplan.trans (if_pos hzero))
  · rw [if_neg hzero] at hrest
    obtain ⟨ms₃, rfl, hsend⟩ := runs_report_bind_iff.mp hrest
    rw [Program.calls_append]
    refine pursues_of_inTurn (hplan.trans (if_neg hzero)) ?_
    obtain ⟨failure, hfail, rfl⟩ | ⟨ms₄, receipt, ms₅, hsent, hend, rfl⟩ := runs_bind_iff.mp hsend
    · exact inTurn_of_runs hfail
    · obtain ⟨ms₆, rfl, hreturn⟩ := runs_report_bind_iff.mp hend
      obtain ⟨rfl, rfl⟩ := runs_pure_iff.mp hreturn
      change Dispatch.InTurn _ _ (calls (ms₄ ++ [_])) _
      rw [Program.calls_append, calls, calls, List.append_nil]
      exact inTurn_of_runs hsent

theorem frontrun_eq (f : Flows) (contract : Address) (arguments : Frontrun) :
    f.frontrun contract arguments = report (.frontrunning contract arguments) >>= fun _ =>
      (dispatch f contract (arguments.payload 11) 0).send f.sequencer := by
  rw [Flows.frontrun, Frontrun.encode_eq]
  rfl

theorem destroy_eq (f : Flows) (contract : Address) :
    f.destroy contract = report (.destroying contract) >>= fun _ =>
      (dispatch f contract [42] 0).send f.sequencer := by
  rw [Flows.destroy, encodeDestroy_eq]
  rfl

theorem topUp_eq (f : Flows) (recipient : Address) (value : UInt256) :
    f.topUp recipient value = report (.toppingUp recipient value) >>= fun _ =>
      (⟨recipient, [], value, f.policy, 21000⟩ : Dispatch).send f.sequencer := rfl

/-- Whatever the node and the signer reply, an operation keeps to its plan. -/
theorem pursues_of_runs {x : Flow} {result : Except Failure x.Result}
    (h : Runs (x.operation f) ms result) :
    ∃ balance, Pursues f x balance (calls ms) (result.map x.receipts) := by
  cases x with
  | fund contract amount =>
    exact ⟨.ok [], pursues_of_inTurn rfl (inTurn_of_runs_fund h)⟩
  | recover contract => exact pursues_of_runs_recover h
  | frontrun contract arguments =>
    rw [operation, frontrun_eq] at h
    exact ⟨.ok [], pursues_of_inTurn rfl (inTurn_of_runs_report h)⟩
  | destroy contract =>
    rw [operation, destroy_eq] at h
    exact ⟨.ok [], pursues_of_inTurn rfl (inTurn_of_runs_report h)⟩
  | topUp recipient value =>
    rw [operation, topUp_eq] at h
    exact ⟨.ok [], pursues_of_inTurn rfl (inTurn_of_runs_report h)⟩

end Flow

namespace Command.FlowOptions

variable {o : FlowOptions} {sequencer : Sequencer} {flows : Flows}

theorem sequencer_flows (h : o.flows sequencer = .ok flows) : flows.sequencer = sequencer := by
  obtain ⟨policy, -, hflows⟩ := Except.bind_eq_ok_iff.mp h
  cases hflows
  rfl

/-- A front-run with the usual opcode is reported, and one with another opcode is not. -/
theorem frontrun_eq_ofOperation (h : o.flows sequencer = .ok flows) (contract : Address)
    (arguments : Frontrun) (opcode : UInt8) :
    let sending := (Flow.dispatch flows contract (arguments.payload opcode) 0).send sequencer
    o.frontrun sequencer contract arguments opcode = .ofOperation
      (if opcode = Opcode.frontrun then
        report (.frontrunning contract arguments) >>= fun _ => sending
      else sending) := by
  intro sending
  rw [FlowOptions.frontrun, h, Frontrun.encode_eq]
  subst sending
  rw [← sequencer_flows h]
  by_cases hopcode : opcode = Opcode.frontrun
  · rw [if_pos hopcode, if_pos hopcode, hopcode]
    exact congrArg Task.ofOperation (Flow.frontrun_eq flows contract arguments)
  · rw [if_neg hopcode, if_neg hopcode]
    rfl

theorem frontrun_eq_throw {e : CommandError} (h : o.flows sequencer = .error e) (contract : Address)
    (arguments : Frontrun) (opcode : UInt8) :
    o.frontrun sequencer contract arguments opcode = throw e := by
  rw [FlowOptions.frontrun, h, Frontrun.encode_eq]
  split <;> rfl

theorem run_ofOperation {α σ : Type} (op : Operation α)
    (surroundings : (act : Act) → σ → act.Reply × σ) (start : σ) :
    (Task.ofOperation op).run.run surroundings start =
      let o := op.run.run surroundings start
      ⟨o.moments, o.result.mapError .operation, o.state⟩ :=
  Program.run_map surroundings (Except.mapError CommandError.operation) op.run start

/-- Whatever its opcode, a front-run asks for what the sending of its payload asks for. -/
theorem run_frontrun (h : o.flows sequencer = .ok flows) (contract : Address)
    (arguments : Frontrun) (opcode : UInt8) {σ : Type}
    (surroundings : (act : Act) → σ → act.Reply × σ) (start : σ) :
    let task := (o.frontrun sequencer contract arguments opcode).run.run surroundings start
    let sent := ((Flow.dispatch flows contract (arguments.payload opcode) 0).send
      sequencer).run.run surroundings start
    calls task.moments = calls sent.moments ∧ task.result = sent.result.mapError .operation ∧
      task.state = sent.state := by
  rw [frontrun_eq_ofOperation h, run_ofOperation]
  by_cases hopcode : opcode = Opcode.frontrun
  · rw [if_pos hopcode]
    exact ⟨rfl, rfl, rfl⟩
  · rw [if_neg hopcode]
    exact ⟨rfl, rfl, rfl⟩

end Command.FlowOptions

namespace Flow

/-- The transactions of an operation if all goes well, of which there are none where it cannot
start. -/
def planned (f : Flows) (x : Flow) (balance : Except ClientError Bytes) : List Dispatch :=
  match x.plan f balance with
  | .ok ds => ds
  | .error _ => []

structure Refines (f : Flows) (x : Flow) (balance : Except ClientError Bytes)
    (cs : List (Call Act.Reply)) (result : Except Failure x.Result) : Prop where
  pursued : Pursues f x balance cs (result.map x.receipts)
  requested : ∃ sent, sent <+: x.planned f balance ∧
    List.Forall₂ (Dispatch.Asks f.sequencer) sent (requests cs)
  paced : Paced cs
  completed (r : x.Result) : result = .ok r → confirmations cs = x.receipts r ∧
    (x.receipts r).length = (x.planned f balance).length ∧
    List.Forall₂ (Dispatch.Asks f.sequencer) (x.planned f balance) (requests cs)

theorem idle_preface (f : Flows) (x : Flow) (balance : Except ClientError Bytes) :
    Idle (x.preface f balance) := by
  cases x <;> exact ⟨rfl, rfl, rfl⟩

theorem refines_of_pursues {x : Flow} {balance : Except ClientError Bytes}
    {cs : List (Call Act.Reply)} {result : Except Failure x.Result}
    (h : Pursues f x balance cs (result.map x.receipts)) : Refines f x balance cs result := by
  have hpursued := h
  have hidle := idle_preface f x balance
  cases hplan : x.plan f balance with
  | error failure =>
    have hplanned : x.planned f balance = [] := by rw [planned, hplan]
    rw [Pursues, hplan] at h
    obtain ⟨rfl, hresult⟩ := h
    refine ⟨hpursued, ⟨[], List.nil_prefix, ?_⟩, ?_, ?_⟩
    · rw [hidle.requests]
      exact .nil
    · exact paced_of_nonceReads_eq_zero hidle.nonceReads
    · rintro r rfl
      cases hresult
  | ok ds =>
    have hplanned : x.planned f balance = ds := by rw [planned, hplan]
    rw [Pursues, hplan] at h
    obtain ⟨rest, rfl, hinTurn⟩ := h
    obtain ⟨sent, hsent, hasked⟩ := hinTurn.requested
    refine ⟨hpursued, ⟨sent, hplanned ▸ hsent, ?_⟩, hidle.paced_append hinTurn.paced, ?_⟩
    · rwa [requests_append, hidle.requests]
    · rintro r rfl
      obtain ⟨hrequests, hconfirmed, hlength⟩ := hinTurn.completed
      rw [requests_append, hidle.requests, confirmations_append, hidle.confirmations, hplanned]
      exact ⟨hconfirmed, hlength, hrequests⟩

/-- Whatever the node and the signer reply, an operation does what it plans: it asks the signer
for transactions of its plan, in order and from the start, one after another, and it succeeds
only with all of them confirmed. A front-run has a payload of 31 bytes; from the command line, it
asks for just what the sending of its payload asks for, whatever its opcode is. -/
theorem operation_refines_plan :
    (∀ (f : Flows) (x : Flow) {σ : Type} (surroundings : (act : Act) → σ → act.Reply × σ)
      (start : σ), ∃ balance,
        let o := (x.operation f).run.run surroundings start
        Refines f x balance (calls o.moments) o.result) ∧
    (∀ (arguments : Frontrun) (opcode : UInt8), (arguments.payload opcode).length = 31) ∧
    ∀ (options : Command.FlowOptions) (sequencer : Sequencer) (contract : Address)
      (arguments : Frontrun) (opcode : UInt8) {σ : Type}
      (surroundings : (act : Act) → σ → act.Reply × σ) (start : σ),
      let o := (options.frontrun sequencer contract arguments opcode).run.run surroundings start
      match options.flows sequencer with
      | .error e => o.moments = [] ∧ o.result = .error e ∧ o.state = start
      | .ok flows =>
        let sent := ((dispatch flows contract (arguments.payload opcode) 0).send
          sequencer).run.run surroundings start
        calls o.moments = calls sent.moments ∧ o.result = sent.result.mapError .operation ∧
          o.state = sent.state := by
  refine ⟨?_, Frontrun.length_payload, ?_⟩
  · intro f x σ surroundings start
    obtain ⟨balance, hpursues⟩ := pursues_of_runs (Program.runs_run surroundings _ start)
    exact ⟨balance, refines_of_pursues hpursues⟩
  · intro options sequencer contract arguments opcode σ surroundings start o
    subst o
    cases hflows : options.flows sequencer with
    | error e =>
      rw [Command.FlowOptions.frontrun_eq_throw hflows]
      exact ⟨rfl, rfl, rfl⟩
    | ok flows =>
      exact Command.FlowOptions.run_frontrun hflows contract arguments opcode surroundings start

end Flow

end Sandwich
