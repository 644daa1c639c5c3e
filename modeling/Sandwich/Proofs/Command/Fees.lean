import Sandwich.Command.Line
import Sandwich.Command.Run
import Sandwich.Proofs.Command.Job
import Sandwich.Proofs.Flow

/-! Fees that are refused, and when. Options for the other type of transaction are
refused before anything is asked. The amounts of the fees are looked at only once the
sender is connected, so that a malformed one costs a question to the node unless the
chain is given. -/

namespace Sandwich

namespace Command

open Program

/-- The options of a command to a deployed contract. -/
def flow? : Command → Option FlowOptions
  | .frontrun _ _ _ flow | .fund _ _ flow | .recover _ flow | .destroy _ flow | .topUp _ _ flow =>
    some flow
  | .deploy _ | .predict _ _ | .encode _ | .decode _ _ => none

def amount? : Command → Option String
  | .fund _ text _ | .topUp _ text _ => some text
  | _ => none

variable {env : Environment} {flow : FlowOptions} {e : CommandError}

theorem flows_of_policy_error (h : flow.fees.policy = .error e) (sequencer : Sequencer) :
    flow.flows sequencer = .error e := by
  rw [FlowOptions.flows, h]
  rfl

/-- An operation whose fees are refused connects and goes no further. -/
theorem perform_of_policy_error {α : Type} (h : flow.fees.policy = .error e)
    (operation : Flows → Operation α) :
    flow.perform env operation = flow.connect env >>= fun _ => throw e := by
  rw [FlowOptions.perform]
  refine bind_congr fun session => ?_
  rw [flows_of_policy_error h]
  rfl

/-- So does any command, once its other amounts are known to be in order. -/
theorem run_of_policy_error {c : Command} (hflow : c.flow? = some flow)
    (hamount : ∀ text, c.amount? = some text → ∃ n, amount text = .ok n)
    (h : flow.fees.policy = .error e) :
    run env c = flow.connect env >>= fun _ => throw e := by
  cases c with
  | deploy | predict | encode | decode => cases hflow
  | frontrun contract arguments opcode =>
    cases hflow
    rw [run]
    refine bind_congr fun session => ?_
    rw [FlowOptions.frontrun_eq_throw (flows_of_policy_error h session.sequencer)]
    rfl
  | fund receiver text | topUp receiver text =>
    cases hflow
    obtain ⟨n, hn⟩ := hamount text rfl
    rw [run, hn]
    refine (congrArg (· >>= _) (perform_of_policy_error h _)).trans ?_
    rw [bind_assoc]
    rfl
  | recover | destroy =>
    cases hflow
    rw [run, perform_of_policy_error h, bind_assoc]
    rfl

/-! ### What has been asked by then -/

theorem policy_of_validate_error {o : FeeOptions} (h : o.validate = .error e) :
    o.policy = .error e := by
  rw [FeeOptions.policy, h]
  rfl

/-- Options that do not go together end a connection before it begins. -/
theorem silent_connect_of_validate (h : flow.fees.validate = .error e) :
    Silent (flow.connect env).run (.error e) := by
  rw [FlowOptions.connect, h]
  exact .done _

/-- Where the chain is given, nothing is asked in order to connect. -/
theorem silent_connect_of_chainId {signer : Signer} {chainId : UInt64}
    (hvalid : flow.fees.validate = .ok ()) (hkey : env.signer flow.sender.key.toList = .ok signer)
    (haddress : flow.sender.connection.check = .ok ())
    (hchain : flow.sender.chainId = some chainId) :
    Silent (flow.connect env).run
      (.ok { connection := flow.sender.connection, signer, chainId }) := by
  rw [FlowOptions.connect, hvalid, connect_of_chainId hkey haddress hchain]
  exact .report (.done _)

/-- Where it is not, the node is asked for it before the command is given up. -/
theorem connect_throw_of_none {α : Type} {signer : Signer}
    (hvalid : flow.fees.validate = .ok ()) (hkey : env.signer flow.sender.key.toList = .ok signer)
    (haddress : flow.sender.connection.check = .ok ()) (hchain : flow.sender.chainId = none) :
    (flow.connect env >>= fun _ => (throw e : Job α)).run =
      .act ⟨flow.sender.connection, .chainId⟩ fun answer : Except ClientError UInt64 =>
        match answer with
        | .error lost => .done (.error (.client lost))
        | .ok chainId =>
          .report (.connected flow.sender.connection.url chainId signer.address)
            (.done (.error e)) := by
  rw [FlowOptions.connect, hvalid, connect_of_none hkey haddress hchain]
  refine congrArg (Program.act _) (funext fun answer => ?_)
  cases answer with
  | error lost => rfl
  | ok chainId => rfl

/-- So the one question is the one for the chain. -/
theorem run_connect_throw_of_none {α σ : Type} {signer : Signer}
    (hvalid : flow.fees.validate = .ok ()) (hkey : env.signer flow.sender.key.toList = .ok signer)
    (haddress : flow.sender.connection.check = .ok ()) (hchain : flow.sender.chainId = none)
    (surroundings : (inquiry : Inquiry) → σ → inquiry.Reply × σ) (start : σ) :
    let o := (flow.connect env >>= fun _ => (throw e : Job α)).run.run surroundings start
    let inquiry : Inquiry := ⟨flow.sender.connection, .chainId⟩
    let answer : Except ClientError UInt64 := (surroundings inquiry start).1
    calls o.moments = [⟨inquiry, answer⟩] ∧
      o.result = match answer with
        | .error lost => .error (.client lost)
        | .ok _ => .error e := by
  rw [connect_throw_of_none hvalid hkey haddress hchain]
  refine Program.run_act_of_silent ?_
  cases (surroundings ⟨flow.sender.connection, .chainId⟩ start).1 with
  | error lost => exact .done _
  | ok chainId => exact .report (.done _)

/-- Fees that are refused end the command, and with their own error where nothing has to be asked
in order to connect. A malformed amount is found only after the question for the chain, if there
is one, and takes second place to an answer that fails to come. -/
theorem fees_refused (env : Environment) (c : Command) (flow : FlowOptions) (signer : Signer)
    (e : CommandError) (hflow : c.flow? = some flow)
    (hamount : ∀ text, c.amount? = some text → ∃ n, amount text = .ok n)
    (hkey : env.signer flow.sender.key.toList = .ok signer)
    (haddress : flow.sender.connection.check = .ok ()) (h : flow.fees.policy = .error e) {σ : Type}
    (surroundings : (inquiry : Inquiry) → σ → inquiry.Reply × σ) (start : σ) :
    let o := (run env c).run.run surroundings start
    match flow.fees.validate, flow.sender.chainId with
    | .ok (), none =>
      let inquiry : Inquiry := ⟨flow.sender.connection, .chainId⟩
      let answer : Except ClientError UInt64 := (surroundings inquiry start).1
      calls o.moments = [⟨inquiry, answer⟩] ∧
        o.result = match answer with
          | .error lost => .error (.client lost)
          | .ok _ => .error e
    | _, _ => calls o.moments = [] ∧ o.result = .error e := by
  intro o
  have ho : o = (flow.connect env >>= fun _ => (throw e : Job String)).run.run surroundings start :=
    congrArg (fun job : Job String => job.run.run surroundings start)
      (run_of_policy_error hflow hamount h)
  rw [ho]
  cases hvalid : flow.fees.validate with
  | error e' =>
    obtain rfl : e' = e := Except.error.inj ((policy_of_validate_error hvalid).symm.trans h)
    have hsilent : Silent (flow.connect env >>= fun _ => (throw e' : Job String)).run (.error e') :=
      silent_bind_error (silent_connect_of_validate hvalid)
    obtain ⟨hcalls, hresult, -⟩ := hsilent.run surroundings start
    exact ⟨hcalls, hresult⟩
  | ok =>
    cases hchain : flow.sender.chainId with
    | none => exact run_connect_throw_of_none hvalid hkey haddress hchain surroundings start
    | some chainId =>
      have hsilent : Silent (flow.connect env >>= fun _ => (throw e : Job String)).run (.error e) :=
        silent_bind_ok (silent_connect_of_chainId hvalid hkey haddress hchain) (.done _)
      obtain ⟨hcalls, hresult, -⟩ := hsilent.run surroundings start
      exact ⟨hcalls, hresult⟩

theorem ofKey_of_parse {text : List Char} {key : PrivateKey}
    (h : PrivateKey.parse text = .ok key) : Signer.ofKey text = .ok key.signer := by
  rw [Signer.ofKey, h]
  rfl

/-- A sender whose chain is not given, and who caps the fees at what is no amount. -/
def malformedCap : FlowOptions where
  sender := {
    connection := { url := "http://[::1]:1" }
    key := "0xac0974bec39a17e36ba4a6b4d238ff944bacb478cbed5efcae784d7bf4f2ff80"
    chainId := none }
  fees := { maxFee := some "lots" }

def malformedCapKey : PrivateKey where
  secret := 0xac0974bec39a17e36ba4a6b4d238ff944bacb478cbed5efcae784d7bf4f2ff80
  pos := by decide
  lt_order := by decide

theorem policy_malformedCap : malformedCap.fees.policy =
    .error (.input (.amount (.malformed "lots" (.unknownUnit "lots")))) := rfl

theorem signer_malformedCap :
    bare.signer malformedCap.sender.key.toList = .ok malformedCapKey.signer := by
  have hparse : PrivateKey.parse malformedCap.sender.key.toList = .ok malformedCapKey := rfl
  exact ofKey_of_parse hparse

/-- The order to destroy a contract, at the price that is no amount. -/
theorem fees_refused_malformedCap :
    let order : Command := .destroy (.ofNat 20 0x5a0) malformedCap
    let e : CommandError := .input (.amount (.malformed "lots" (.unknownUnit "lots")))
    let inquiry : Inquiry := ⟨malformedCap.sender.connection, .chainId⟩
    bare.signer malformedCap.sender.key.toList = .ok malformedCapKey.signer ∧
      malformedCap.sender.connection.check = .ok () ∧ malformedCap.fees.policy = .error e ∧
      ∀ surroundings : (inquiry : Inquiry) → Unit → inquiry.Reply × Unit,
        let o := (run bare order).run.run surroundings ()
        let answer : Except ClientError UInt64 := (surroundings inquiry ()).1
        calls o.moments = [⟨inquiry, answer⟩] ∧
          o.result = match answer with
            | .error lost => .error (.client lost)
            | .ok _ => .error e := by
  intro order e inquiry
  have haddress : malformedCap.sender.connection.check = .ok () := rfl
  refine ⟨signer_malformedCap, haddress, policy_malformedCap, fun surroundings => ?_⟩
  exact fees_refused bare order malformedCap malformedCapKey.signer e rfl (by rintro _ ⟨⟩)
    signer_malformedCap haddress policy_malformedCap surroundings ()

def malformedCapLine : List String := [
  "destroy", "--contract", "0x00000000000000000000000000000000000005a0",
  "--key", "0xac0974bec39a17e36ba4a6b4d238ff944bacb478cbed5efcae784d7bf4f2ff80",
  "--max-fee", "lots", "--rpc", "http://[::1]:1"]

/-- Surroundings in which no request gets a response. -/
def deserted (reason : String) : (act : Rpc.Act) → Unit → act.Reply × Unit
  | .send _, _ => (.lost reason, ())
  | .sign _, _ => (.error (.refused reason), ())

/-- So refused fees do reach for the node: whatever it answers, it has been asked for its chain, and
where it does not answer, the command ends in that and not in the error of the fees. -/
theorem actions_ne_nil_of_malformedCap :
    let order : Command := .destroy (.ofNat 20 0x5a0) malformedCap
    let e : CommandError := .input (.amount (.malformed "lots" (.unknownUnit "lots")))
    (Invocation.parse (fun _ => none) malformedCapLine).map (·.command) = .ok order ∧
      malformedCap.fees.policy = .error e ∧
      (∀ surroundings : (inquiry : Inquiry) → Unit → inquiry.Reply × Unit,
        ((run bare order).run.run surroundings ()).actions =
          [⟨malformedCap.sender.connection, .chainId⟩]) ∧
      ∀ patience reason,
        let o := ((run bare order).run.expand (Inquiry.ask patience)).run (deserted reason) ()
        o.actions = [.send (.ofQuery .chainId)] ∧
          o.result = .error (.client (.transport
            "error sending request for url (http://[::1]:1/)")) ∧
          o.result ≠ .error e := by
  intro order e
  have hrun : run bare order = malformedCap.connect bare >>= fun _ => throw e :=
    run_of_policy_error rfl (by rintro _ ⟨⟩) policy_malformedCap
  refine ⟨rfl, policy_malformedCap, fun surroundings => ?_, fun patience reason => ?_⟩
  · rw [hrun, Outcome.actions_eq,
      (run_connect_throw_of_none rfl signer_malformedCap rfl rfl surroundings ()).1]
    rfl
  · rw [hrun, connect_throw_of_none rfl signer_malformedCap rfl rfl]
    refine ⟨rfl, rfl, ?_⟩
    change Except.error (CommandError.client _) ≠ Except.error (CommandError.input _)
    nofun

end Command

end Sandwich
