import Sandwich.Command.Job
import Sandwich.Proofs.Program

/-! How commands run. The parts of a command that look at its options and at files ask
for nothing: they report events and end in a result, whatever the surroundings are. A
sender is connected without a question if its chain is given, and with one question to
its node if not. -/

namespace Sandwich

namespace Program

variable {Action : Type} {Reply : Action → Type} {α β ε ε' σ : Type}

/-- The program asks for nothing and ends in `a`. -/
inductive Silent : Program Reply α → α → Prop
  | done (a : α) : Silent (done a) a
  | report {event : Event} {next : Program Reply α} {a : α} (h : Silent next a) :
      Silent (report event next) a

theorem Silent.bind {p : Program Reply α} {f : α → Program Reply β} {a : α} {b : β}
    (h : Silent p a) (hf : Silent (f a) b) : Silent (p.bind f) b := by
  induction h with
  | done a => exact hf
  | report _ ih => exact .report (ih hf)

theorem Silent.run {p : Program Reply α} {a : α} (h : Silent p a)
    (surroundings : (action : Action) → σ → Reply action × σ) (start : σ) :
    calls (p.run surroundings start).moments = [] ∧ (p.run surroundings start).result = a ∧
      (p.run surroundings start).state = start := by
  induction h with
  | done a => exact ⟨rfl, rfl, rfl⟩
  | report _ ih => exact ih

/-- Ahead of another program, a silent one asks for nothing. -/
theorem Silent.run_bind {p : Program Reply α} {f : α → Program Reply β} {a : α} (h : Silent p a)
    (surroundings : (action : Action) → σ → Reply action × σ) (start : σ) :
    let o := (p.bind f).run surroundings start
    let rest := (f a).run surroundings start
    calls o.moments = calls rest.moments ∧ o.result = rest.result ∧ o.state = rest.state := by
  induction h with
  | done a => exact ⟨rfl, rfl, rfl⟩
  | report _ ih => exact ih

/-- With a silent program behind its first question, a program asks for nothing else. -/
theorem run_act_of_silent {action : Action} {next : Reply action → Program Reply α} {a : α}
    {surroundings : (action : Action) → σ → Reply action × σ} {start : σ}
    (h : Silent (next (surroundings action start).1) a) :
    let o := (act action next).run surroundings start
    calls o.moments = [⟨action, (surroundings action start).1⟩] ∧ o.result = a := by
  intro o
  obtain ⟨hcalls, hresult, -⟩ := h.run surroundings (surroundings action start).2
  exact ⟨congrArg (_ :: ·) hcalls, hresult⟩

/-! ### Programs that may fail -/

variable {x : ExceptT ε (Program Reply) α} {f : α → ExceptT ε (Program Reply) β}

theorem silent_ofExcept (result : Except ε α) :
    Silent (MonadExcept.ofExcept result : ExceptT ε (Program Reply) α).run result := by
  cases result with
  | error e => exact .done _
  | ok a => exact .done _

theorem silent_ofExcept_map (result : Except ε α) (f : α → β) :
    Silent (do
      let a ← MonadExcept.ofExcept result
      return f a : ExceptT ε (Program Reply) β).run (result.map f) := by
  cases result with
  | error e => exact .done _
  | ok a => exact .done _

theorem silent_tell (event : Event) :
    Silent (ExceptT.lift (tell event) : ExceptT ε (Program Reply) Unit).run (.ok ()) :=
  .report (.done _)

theorem silent_bind_error {e : ε} (h : Silent x.run (.error e)) :
    Silent (x >>= f).run (.error e) :=
  h.bind (.done _)

theorem silent_bind_ok {a : α} {result : Except ε β} (h : Silent x.run (.ok a))
    (hf : Silent (f a).run result) : Silent (x >>= f).run result :=
  h.bind hf

/-- What follows on a silent program is decided by its result. -/
theorem silent_bind {result : Except ε α} {g : α → Except ε β} (h : Silent x.run result)
    (hf : ∀ a, Silent (f a).run (g a)) : Silent (x >>= f).run (result >>= g) := by
  cases result with
  | error e => exact silent_bind_error h
  | ok a => exact silent_bind_ok h (hf a)

theorem silent_adapt {result : Except ε α} (onError : ε → ε') (h : Silent x.run result) :
    Silent (ExceptT.adapt onError x).run (result.mapError onError) :=
  h.bind (.done _)

theorem silent_tells (events : List Event) :
    Silent (events.forM fun event => ExceptT.lift (tell event) :
      ExceptT ε (Program Reply) Unit).run (.ok ()) := by
  induction events with
  | nil => exact .done _
  | cons event events ih => exact silent_bind_ok (silent_tell event) ih

theorem adapt_bind (onError : ε → ε') (x : ExceptT ε (Program Reply) α)
    (f : α → ExceptT ε (Program Reply) β) :
    ExceptT.adapt onError (x >>= f) =
      ExceptT.adapt onError x >>= fun a => ExceptT.adapt onError (f a) := by
  refine ((bind_bind x.run _ _).trans ?_).trans (bind_bind x.run _ _).symm
  refine congrArg x.run.bind (funext fun result => ?_)
  cases result with
  | error e => rfl
  | ok a => rfl

end Program

namespace Command

open Program

/-- No files, no compiler, and the signers of private keys. -/
def bare : Environment where
  files := { read := fun _ => .error .notFound, standardInput := [] }
  compiler _ := .disabled

variable {env : Environment} {o : SenderOptions}

/-- Where the chain is given, a sender whose key and address are in order is connected at once. -/
theorem connect_of_chainId {signer : Signer} {chainId : UInt64}
    (hkey : env.signer o.key.toList = .ok signer) (haddress : o.connection.check = .ok ())
    (hchain : o.chainId = some chainId) :
    o.connect env = (do
      ExceptT.lift (tell (.connected o.connection.url chainId signer.address))
      return { connection := o.connection, signer, chainId }) := by
  rw [SenderOptions.connect, hkey, haddress, hchain]
  rfl

/-- Where it is not, the node is asked for it first. -/
theorem connect_of_none {signer : Signer} (hkey : env.signer o.key.toList = .ok signer)
    (haddress : o.connection.check = .ok ()) (hchain : o.chainId = none) :
    o.connect env = (do
      let chainId ← ExceptT.adapt .client (ExceptT.mk (ask (Inquiry.mk o.connection .chainId)))
      ExceptT.lift (tell (.connected o.connection.url chainId signer.address))
      return { connection := o.connection, signer, chainId }) := by
  rw [SenderOptions.connect, hkey, haddress, hchain]
  rfl

end Command

end Sandwich
