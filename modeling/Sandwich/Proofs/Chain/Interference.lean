import Sandwich.Proofs.Chain.Execution
import Sandwich.Proofs.Chain.Numbering

/-! An operation on a chain that others use at the same time. Before each of its acts
they ask the chain what they like and script faults. As long as they submit nothing
that an account has signed, the nonce of that account stays what it is, and receipts
stay on record. -/

namespace Sandwich.Chain

open Operation

variable {scheme : Scheme} {c : Settings}

/-! ### Receipts -/

def KeepsReceipts (s s' : State) : Prop :=
  ∀ hash, (s.receipts.get? hash).isSome → (s'.receipts.get? hash).isSome

theorem Executed.receipts {sender receiver : Address} {value : UInt256} {input : Bytes} {s : State}
    {e : Execution} (h : Executed scheme c sender receiver value input s e) :
    e.state.receipts = s.receipts := by
  cases h with
  | barred _ | unpaid _ _ => rfl
  | called _ _ hcall => cases hcall <;> rfl

theorem keepsReceipts_submit (raw : Bytes) (s : State) :
    KeepsReceipts s (submit scheme c raw s).2 := by
  obtain ⟨refusal, rejectNext, hrefused⟩ | ⟨signed, sender, e, -, -, he, htaken⟩ :=
    submit_cases scheme c s raw
  · rw [hrefused]
    exact fun _ h => h
  · rw [htaken]
    intro hash h
    rw [recorded, Table.get?_set]
    split
    · rfl
    · rw [he.receipts]
      exact h

theorem keepsReceipts_answer (q : Query) (s : State) : KeepsReceipts s (answer scheme c q s).2 := by
  cases q with
  | balance _ | transactionCount _ | gasPrice | maxPriorityFee | chainId | call _ _ =>
    exact fun _ h => h
  | sendRaw raw => exact keepsReceipts_submit raw s
  | awaitReceipt hash =>
    rw [answer, awaitReceipt]
    split
    · exact fun _ h => h
    · split <;> exact fun _ h => h

/-! ### What others do -/

/-- What others can do to a chain. -/
inductive Disturbance
  | rejectNext (reason : String)
  | loseNextReceipt (reason : String)
  | revertCalls (receiver : Address)
  /-- Somebody asks a question, which can be to submit a transaction. -/
  | asks (q : Query)

namespace Disturbance

def apply (scheme : Scheme) (c : Settings) (s : State) : Disturbance → State
  | rejectNext reason => { s with rejectNext := some reason }
  | loseNextReceipt reason => { s with loseNextReceipt := some reason }
  | revertCalls receiver => { s with reverting := receiver :: s.reverting }
  | asks q => (answer scheme c q s).2

/-- No transaction is submitted that the account has signed. -/
def Foreign (scheme : Scheme) (account : Address) : Disturbance → Prop
  | asks (.sendRaw raw) => ¬ SignedBy scheme account raw
  | _ => True

end Disturbance

/-- Nothing of what happens from `s` to `s'` is done by the account. -/
structure Aside (scheme : Scheme) (account : Address) (s s' : State) : Prop where
  nonce : s'.nonces.getD account 0 = s.nonces.getD account 0
  receipts : KeepsReceipts s s'
  numbered {start : State} {taken : List SignedTransaction} : Numbered scheme start s taken →
    ∃ others, Numbered scheme start s' (taken ++ others) ∧ sentBy scheme account others = []

variable {account : Address} {s s' s'' : State}

theorem aside_self : Aside scheme account s s where
  nonce := rfl
  receipts _ h := h
  numbered h := ⟨[], by rwa [List.append_nil], rfl⟩

theorem Aside.trans (h : Aside scheme account s s') (h' : Aside scheme account s' s'') :
    Aside scheme account s s'' where
  nonce := h'.nonce.trans h.nonce
  receipts hash hs := h'.receipts hash (h.receipts hash hs)
  numbered hs := by
    obtain ⟨others, hothers, hnone⟩ := h.numbered hs
    obtain ⟨others', hothers', hnone'⟩ := h'.numbered hothers
    refine ⟨others ++ others', by rwa [← List.append_assoc], ?_⟩
    rw [sentBy_append, hnone, hnone', List.append_nil]

/-- One step in which no transaction of the account is taken. -/
theorem aside_of_effect {t : Option SignedTransaction} (he : Effect scheme s s' t)
    (hreceipts : KeepsReceipts s s') (hother : sentBy scheme account t.toList = []) :
    Aside scheme account s s' where
  nonce := by
    cases he with
    | quiet hsame => rw [hsame.1]
    | @takes signed sender hsender _ hnonces _ =>
      have hne : sender ≠ account := by
        rintro rfl
        simp [sentBy, hsender] at hother
      rw [hnonces, Table.getD_set, if_neg hne]
  receipts := hreceipts
  numbered hs := ⟨t.toList, hs.step he, hother⟩

theorem aside_apply {d : Disturbance} (hforeign : d.Foreign scheme account) (s : State) :
    Aside scheme account s (d.apply scheme c s) := by
  cases d with
  | rejectNext _ | loseNextReceipt _ | revertCalls _ =>
    exact aside_of_effect (.quiet ⟨rfl, rfl⟩) (fun _ h => h) rfl
  | asks q =>
    refine aside_of_effect (effect_answer scheme c q s) (keepsReceipts_answer q s) ?_
    rw [sentBy, List.filter_eq_nil_iff]
    intro signed hsigned hsender
    obtain ⟨raw, hash, hasked, hdecode⟩ :=
      exists_of_taken?_eq_some (Option.mem_toList.mp hsigned)
    obtain ⟨rfl⟩ := Act.query.inj (Program.Moment.acted.inj hasked).1
    exact hforeign ⟨signed, hdecode, of_decide_eq_true hsender⟩

def disturb (scheme : Scheme) (c : Settings) (ds : List Disturbance) (s : State) : State :=
  ds.foldl (fun s d => d.apply scheme c s) s

theorem aside_disturb {ds : List Disturbance} (hforeign : ∀ d ∈ ds, d.Foreign scheme account)
    (s : State) : Aside scheme account s (disturb scheme c ds s) := by
  induction ds generalizing s with
  | nil => exact aside_self
  | cons d ds ih =>
    obtain ⟨hd, hds⟩ := List.forall_mem_cons.mp hforeign
    exact (aside_apply hd s).trans (ih hds _)

/-! ### Operations among others -/

/-- An act, and the chain as it finds it. -/
structure Scene where
  chain : State
  act : Act

structure Stage where
  chain : State
  /-- What others do before each of the acts to come. -/
  agenda : List (List Disturbance) := []
  /-- The acts so far. -/
  scenes : List Scene := []

/-- The reply of the chain and of a signer to an act, after what others do before it. -/
def attend (scheme : Scheme) (c : Settings) (signer : Signer) (act : Act) (stage : Stage) :
    act.Reply × Stage :=
  let found := disturb scheme c (stage.agenda.headD []) stage.chain
  let (reply, after) := reply scheme c signer act found
  (reply, ⟨after, stage.agenda.tail, stage.scenes ++ [⟨found, act⟩]⟩)

/-- How moments come about from `s` to `s'`, where the chain and a signer reply to the acts, and
nobody else acts for the signer in between. -/
inductive Along (scheme : Scheme) (c : Settings) (signer : Signer) :
    State → List Moment → List Scene → State → Prop
  | nil (s : State) : Along scheme c signer s [] [] s
  | acted {s found s' : State} {act : Act} {ms : List Moment} {scenes : List Scene}
      (haside : Aside scheme signer.address s found)
      (h : Along scheme c signer (reply scheme c signer act found).2 ms scenes s') :
      Along scheme c signer s (.acted act (reply scheme c signer act found).1 :: ms)
        (⟨found, act⟩ :: scenes) s'
  | reported {s s' : State} {event : Event} {ms : List Moment} {scenes : List Scene}
      (h : Along scheme c signer s ms scenes s') :
      Along scheme c signer s (.reported event :: ms) scenes s'

variable {signer : Signer}

theorem along_run {α : Type} (p : Program Act.Reply α) (stage : Stage)
    (hforeign : ∀ ds ∈ stage.agenda, ∀ d ∈ ds, d.Foreign scheme signer.address) :
    let o := p.run (attend scheme c signer) stage
    ∃ scenes, o.state.scenes = stage.scenes ++ scenes ∧
      Along scheme c signer stage.chain o.moments scenes o.state.chain ∧
      o.state.agenda <:+ stage.agenda := by
  induction p generalizing stage with
  | done a => exact ⟨[], (List.append_nil _).symm, .nil _, List.suffix_refl _⟩
  | report event next ih =>
    obtain ⟨scenes, hscenes, halong, hagenda⟩ := ih stage hforeign
    exact ⟨scenes, hscenes, .reported halong, hagenda⟩
  | act act next ih =>
    have htail : stage.agenda.tail <:+ stage.agenda := List.tail_suffix _
    have hhead : ∀ d ∈ stage.agenda.headD [], d.Foreign scheme signer.address := by
      cases hagenda : stage.agenda with
      | nil => exact fun _ hd => nomatch hd
      | cons ds rest => exact hforeign ds (by rw [hagenda]; exact List.mem_cons_self)
    obtain ⟨scenes, hscenes, halong, hagenda⟩ :=
      ih _ (attend scheme c signer act stage).2 fun ds hds => hforeign ds (htail.subset hds)
    refine ⟨_ :: scenes, ?_, .acted (aside_disturb hhead _) halong, hagenda.trans htail⟩
    exact hscenes.trans (List.append_assoc _ _ _)

theorem Along.exists_append {ms₁ ms₂ : List Moment} {s s' : State} {scenes : List Scene}
    (h : Along scheme c signer s (ms₁ ++ ms₂) scenes s') :
    ∃ scenes₁ middle scenes₂, scenes = scenes₁ ++ scenes₂ ∧
      Along scheme c signer s ms₁ scenes₁ middle ∧
      Along scheme c signer middle ms₂ scenes₂ s' := by
  induction ms₁ generalizing s scenes with
  | nil => exact ⟨[], s, scenes, rfl, .nil s, h⟩
  | cons m ms₁ ih =>
    cases h with
    | acted haside h =>
      obtain ⟨scenes₁, middle, scenes₂, rfl, h₁, h₂⟩ := ih h
      exact ⟨_ :: scenes₁, middle, scenes₂, rfl, .acted haside h₁, h₂⟩
    | reported h =>
      obtain ⟨scenes₁, middle, scenes₂, rfl, h₁, h₂⟩ := ih h
      exact ⟨scenes₁, middle, scenes₂, rfl, .reported h₁, h₂⟩

end Sandwich.Chain
