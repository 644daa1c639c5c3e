import Sandwich.Command.Run
import Sandwich.Proofs.Command.Job
import Sandwich.Proofs.Flow

/-! Deployments and their bytecode. All that can be wrong with the inputs of a
deployment is found before anything is asked, and the first fault found is the one
told. There are two ways to deploy a source, one that compiles it ahead of connecting
and one that compiles it as part of the operation; they do the same. -/

namespace Sandwich

open Program

namespace Deployer

/-- The bytecode that a compiler gives for a source, if there is a compiler. -/
def compiled (compiler : Compiler) (source : String) : Except Failure Bytes :=
  match compiler.available with
  | .error e => .error (.compilerUnavailable e)
  | .ok () => (compiler.compile source).2

def deployable (bytecode : Bytes) : Except Failure Bytes :=
  if bytecode = [] then .error .emptyBytecode else .ok bytecode

variable {Action : Type} {Reply : Action → Type}

theorem silent_compile (compiler : Compiler) (source : String) :
    Silent (compile compiler source : ExceptT Failure (Program Reply) Bytes).run
      (compiled compiler source) := by
  rw [compile, compiled]
  cases compiler.available with
  | error e => exact silent_bind_error (silent_ofExcept _)
  | ok =>
    refine silent_bind_ok (silent_ofExcept (.ok ())) ?_
    refine silent_bind_ok (silent_tells _) ?_
    cases (compiler.compile source).2 with
    | error failure => exact silent_bind_error (silent_ofExcept (.error failure))
    | ok bytecode =>
      exact silent_bind_ok (silent_ofExcept (.ok bytecode))
        (silent_bind_ok (silent_tell _) (.done _))

theorem silent_deploy_nil (hash : Bytes → Word) (d : Deployer) (salt : Word) (initData : Bytes) :
    Silent (d.deploy hash salt [] initData).run (.error .emptyBytecode) :=
  .done _

/-- A source from which no bytecode comes asks for nothing, and any other for what its bytecode
asks for. -/
theorem run_deploySource (hash : Bytes → Word) (d : Deployer) (compiler : Compiler)
    (source : String) (salt : Word) (initData : Bytes) {σ : Type}
    (surroundings : (act : Act) → σ → act.Reply × σ) (start : σ) :
    let whole := (d.deploySource hash compiler source salt initData).run.run surroundings start
    match compiled compiler source >>= deployable with
    | .error failure =>
      calls whole.moments = [] ∧ whole.result = .error failure ∧ whole.state = start
    | .ok bytecode =>
      let deployed := (d.deploy hash salt bytecode initData).run.run surroundings start
      calls whole.moments = calls deployed.moments ∧ whole.result = deployed.result ∧
        whole.state = deployed.state := by
  intro whole
  have hcompile :
      Silent (compile compiler source : Operation Bytes).run (compiled compiler source) :=
    silent_compile compiler source
  cases hcompiled : compiled compiler source with
  | error failure =>
    rw [hcompiled] at hcompile
    exact (silent_bind_error hcompile).run surroundings start
  | ok bytecode =>
    rw [hcompiled] at hcompile
    cases bytecode with
    | nil =>
      have hsilent : Silent (d.deploySource hash compiler source salt initData).run
          (.error .emptyBytecode) :=
        silent_bind_ok hcompile (silent_deploy_nil hash d salt initData)
      exact hsilent.run surroundings start
    | cons b bs => exact hcompile.run_bind surroundings start

end Deployer

namespace Command.DeployOptions

open Deployer

def nonempty (bytecode : Bytes) : Except CommandError Bytes :=
  (deployable bytecode).mapError .operation

/-- The bytecode of a deployment, given in place, in a file or as a source. -/
def bytecode? (o : DeployOptions) (env : Environment) : Except CommandError Bytes :=
  match loadHex env.files o.bytecode o.bytecodeFile, o.source with
  | .error e, _ => .error e
  | .ok (some bytecode), _ => nonempty bytecode
  | .ok none, some source =>
    (compiled (env.compiler o.compiler) source).mapError .operation >>= nonempty
  | .ok none, none => .error (.input .noBytecode)

variable {Action : Type} {Reply : Action → Type}

theorem ne_nil_of_nonempty {data bytecode : Bytes} (h : nonempty data = .ok bytecode) :
    bytecode ≠ [] := by
  cases data with
  | nil => cases h
  | cons =>
    cases h
    exact List.cons_ne_nil _ _

theorem ne_nil_of_bytecode? {o : DeployOptions} {env : Environment} {bytecode : Bytes}
    (h : o.bytecode? env = .ok bytecode) : bytecode ≠ [] := by
  rw [bytecode?] at h
  split at h
  · cases h
  · exact ne_nil_of_nonempty h
  · obtain ⟨compiled, -, h⟩ := Except.bind_eq_ok_iff.mp h
    exact ne_nil_of_nonempty h
  · cases h

theorem silent_nonempty (bytecode : Bytes) :
    Silent (do
      if bytecode.isEmpty then throw (.operation .emptyBytecode)
      return bytecode : ExceptT CommandError (Program Reply) Bytes).run (nonempty bytecode) := by
  cases bytecode with
  | nil => exact .done _
  | cons => exact .done _

theorem loadBytecode_of_source {o : DeployOptions} {env : Environment} {source : String}
    (hloaded : loadHex env.files o.bytecode o.bytecodeFile = .ok none)
    (hsource : o.source = some source) :
    (o.loadBytecode env : ExceptT CommandError (Program Reply) Bytes) = (do
      let bytecode ← ExceptT.adapt .operation (compile (env.compiler o.compiler) source)
      if bytecode.isEmpty then throw (.operation .emptyBytecode)
      return bytecode) := by
  rw [loadBytecode, hloaded, hsource]
  rfl

theorem silent_loadBytecode (o : DeployOptions) (env : Environment) :
    Silent (o.loadBytecode env : ExceptT CommandError (Program Reply) Bytes).run
      (o.bytecode? env) := by
  cases hloaded : loadHex env.files o.bytecode o.bytecodeFile with
  | error e =>
    rw [loadBytecode, bytecode?, hloaded]
    exact silent_bind_error (silent_ofExcept (.error e))
  | ok loaded =>
    cases loaded with
    | some bytecode =>
      rw [loadBytecode, bytecode?, hloaded]
      exact silent_bind_ok (silent_ofExcept (.ok (some bytecode)))
        (silent_bind_ok (.done _) (silent_nonempty bytecode))
    | none =>
      cases hsource : o.source with
      | none =>
        rw [loadBytecode, bytecode?, hloaded, hsource]
        exact silent_bind_ok (silent_ofExcept (.ok none)) (silent_bind_error (.done _))
      | some source =>
        rw [loadBytecode_of_source hloaded hsource, bytecode?, hloaded, hsource]
        exact silent_bind (silent_adapt _ (silent_compile _ source)) silent_nonempty

/-! ### Faults of the inputs -/

/-- The error that a check ends in. -/
def fault? {α : Type} : Except CommandError α → Option CommandError
  | .ok _ => none
  | .error e => some e

/-- What is wrong with the fees, the data for the new contract, the bytecode and the key, in this
order. -/
def faults (o : DeployOptions) (env : Environment) : List CommandError :=
  [fault? o.fees.policy, fault? (loadHex env.files o.initData none), fault? (o.bytecode? env),
    fault? ((env.signer o.sender.key.toList).mapError .operation)].filterMap id

variable {o : DeployOptions} {env : Environment}

/-- A first fault either ends a check or is left for those that follow it. -/
theorem silent_bind_of_faults {α β : Type} {x : Job α} {result : Except CommandError α}
    {f : α → Job β} {checks : List (Option CommandError)} {e : CommandError}
    {others : List CommandError} (hx : Silent x.run result)
    (h : (fault? result :: checks).filterMap id = e :: others)
    (hnext : ∀ a, checks.filterMap id = e :: others → Silent (f a).run (.error e)) :
    Silent (x >>= f).run (.error e) := by
  cases result with
  | error e' =>
    obtain ⟨rfl, -⟩ := List.cons.inj h
    exact silent_bind_error hx
  | ok a => exact silent_bind_ok hx (hnext a h)

/-- The first fault ends the deployment before anything is asked. -/
theorem silent_run_of_faults {e : CommandError} {others : List CommandError}
    (h : o.faults env = e :: others) : Silent (o.run env).run (.error e) := by
  refine silent_bind_of_faults (silent_ofExcept o.fees.policy) h fun policy h => ?_
  refine silent_bind_of_faults (silent_ofExcept _) h fun initData h => ?_
  refine silent_bind_of_faults (silent_loadBytecode o env) h fun bytecode h => ?_
  -- the key is the first that is looked at in order to connect
  have hconnect : Silent (o.sender.connect env).run (.error e) :=
    silent_bind_of_faults (silent_ofExcept _) h fun _ h => nomatch h
  exact silent_bind_error hconnect

theorem exists_bytecode_of_faults (h : o.faults env = []) :
    ∃ bytecode, bytecode ≠ [] ∧ o.bytecode? env = .ok bytecode := by
  cases hbytecode : o.bytecode? env with
  | error e =>
    have hmem : e ∈ o.faults env := by simp [faults, hbytecode, fault?]
    rw [h] at hmem
    cases hmem
  | ok bytecode => exact ⟨bytecode, ne_nil_of_bytecode? hbytecode, rfl⟩

/-! ### Two ways to deploy a source -/

/-- To compile a source and then to deploy the bytecode is to deploy the source. -/
theorem loadBytecode_bind_deploy {source : String}
    (hloaded : loadHex env.files o.bytecode o.bytecodeFile = .ok none)
    (hsource : o.source = some source) (d : Deployer) (salt : Word) (initData : Bytes) :
    (do
      let bytecode ← o.loadBytecode env
      .ofOperation (d.deploy env.hash salt bytecode initData) : Task Deployment) =
      .ofOperation (d.deploySource env.hash (env.compiler o.compiler) source salt initData) := by
  rw [loadBytecode_of_source hloaded hsource, bind_assoc]
  refine (bind_congr fun bytecode => ?_).trans (adapt_bind _ _ _).symm
  -- both refuse empty bytecode, the one before it is deployed and the other in deploying it
  cases bytecode with
  | nil => rfl
  | cons => rfl

end Command.DeployOptions

namespace Command

/-- Faults of the inputs of a deployment end it before anything is asked, and the first of them is
the one told; without faults there is bytecode. A source that is compiled first and deployed then
does to the chain what its deployment as a whole does. This asks for nothing if the source gives
no bytecode, and for what the deployment of the bytecode asks for if it does. -/
theorem chain_after_inputs :
    (∀ (env : Environment) (o : DeployOptions) {σ : Type}
      (surroundings : (inquiry : Inquiry) → σ → inquiry.Reply × σ) (start : σ),
      let deployed := (run env (.deploy o)).run.run surroundings start
      match o.faults env with
      | e :: _ => calls deployed.moments = [] ∧ deployed.result = .error e ∧ deployed.state = start
      | [] => ∃ bytecode, bytecode ≠ [] ∧ o.bytecode? env = .ok bytecode) ∧
    (∀ (env : Environment) (o : DeployOptions) (source : String) (d : Deployer) (salt : Word)
      (initData : Bytes) {σ : Type} (surroundings : (act : Act) → σ → act.Reply × σ) (start : σ),
      let options := { o with source := some source, bytecode := none, bytecodeFile := none }
      let compiledFirst : Task Deployment := do
        let bytecode ← options.loadBytecode env
        .ofOperation (d.deploy env.hash salt bytecode initData)
      let first := compiledFirst.run.run surroundings start
      let whole := (d.deploySource env.hash (env.compiler o.compiler) source salt
        initData).run.run surroundings start
      calls first.moments = calls whole.moments ∧
        first.result = whole.result.mapError .operation ∧ first.state = whole.state) ∧
    ∀ (hash : Bytes → Word) (d : Deployer) (compiler : Compiler) (source : String) (salt : Word)
      (initData : Bytes) {σ : Type} (surroundings : (act : Act) → σ → act.Reply × σ) (start : σ),
      let whole := (d.deploySource hash compiler source salt initData).run.run surroundings start
      match Deployer.compiled compiler source >>= Deployer.deployable with
      | .error failure =>
        calls whole.moments = [] ∧ whole.result = .error failure ∧ whole.state = start
      | .ok bytecode =>
        let deployed := (d.deploy hash salt bytecode initData).run.run surroundings start
        calls whole.moments = calls deployed.moments ∧ whole.result = deployed.result ∧
          whole.state = deployed.state := by
  refine ⟨?_, ?_, ?_⟩
  · intro env o σ surroundings start deployed
    split
    case h_1 e others h =>
      have hsilent : Silent (run env (.deploy o)).run (.error e) :=
        silent_bind_error (DeployOptions.silent_run_of_faults h)
      exact hsilent.run surroundings start
    case h_2 h => exact DeployOptions.exists_bytecode_of_faults h
  · intro env o source d salt initData σ surroundings start options compiledFirst first whole
    have hfirst : first = (Task.ofOperation (d.deploySource env.hash (env.compiler o.compiler)
        source salt initData)).run.run surroundings start :=
      congrArg (fun task : Task Deployment => task.run.run surroundings start)
        (DeployOptions.loadBytecode_bind_deploy (o := options) rfl rfl d salt initData)
    rw [hfirst, FlowOptions.run_ofOperation]
    exact ⟨rfl, rfl, rfl⟩
  · intro hash d compiler source salt initData σ surroundings start whole
    exact Deployer.run_deploySource hash d compiler source salt initData surroundings start

end Command

end Sandwich
