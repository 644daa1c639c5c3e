import Sandwich.Proofs.Chain.Interference
import Sandwich.Proofs.Chain.NonceSafety

/-! Operations of an account that is the only one to send for itself. When it submits
a transaction, it has just read the nonce, and nobody has used the nonce since. So the
chain refuses the transaction only if it is scripted to, and the receipt is there
unless it is scripted to be lost. -/

namespace Sandwich.Chain

open Operation

variable {scheme : Scheme} {c : Settings} {signer : Signer}

/-! ### Scripted failures -/

/-- If what is submitted or waited for in the scene fails, that is due to a script; and what is
submitted is signed by the account. -/
def Scene.Fair (scheme : Scheme) (c : Settings) (account : Address) (scene : Scene) : Prop :=
  match scene.act with
  | .query (.sendRaw raw) => SignedBy scheme account raw ∧
    ∀ refusal, (submit scheme c raw scene.chain).1 = .error refusal →
      ∃ reason, refusal = .scripted reason ∧ scene.chain.rejectNext = some reason
  | .query (.awaitReceipt hash) =>
    ∀ e, (awaitReceipt hash scene.chain).1 = .error e →
      ∃ reason, e = .other reason ∧ scene.chain.loseNextReceipt = some reason
  | _ => True

abbrev AllFair (scheme : Scheme) (c : Settings) (account : Address) (scenes : List Scene) : Prop :=
  ∀ scene ∈ scenes, scene.Fair scheme c account

/-- If the failure is that of a submission or of the wait for a receipt, a script was due in one of
the scenes. -/
def Scripted (scenes : List Scene) : Failure → Prop
  | .submissionRejected _ e => ∃ scene ∈ scenes, ∃ raw reason,
    scene.act = .query (.sendRaw raw) ∧ scene.chain.rejectNext = some reason ∧ e = .other reason
  | .receiptUnavailable hash _ e => ∃ scene ∈ scenes, ∃ reason,
    scene.act = .query (.awaitReceipt hash) ∧ scene.chain.loseNextReceipt = some reason ∧
      e = .other reason
  | _ => True

theorem Scripted.mono {scenes scenes' : List Scene} {failure : Failure}
    (h : Scripted scenes failure) (hsub : scenes ⊆ scenes') : Scripted scenes' failure := by
  cases failure with
  | submissionRejected _ _ | receiptUnavailable _ _ _ =>
    obtain ⟨scene, hscene, hrest⟩ := h
    exact ⟨scene, hsub hscene, hrest⟩
  | _ => trivial

def Due (scheme : Scheme) (c : Settings) (account : Address) (raw : Bytes) (s : State) : Prop :=
  ∃ signed, scheme.decode raw = .ok signed ∧ scheme.sender? signed = some account ∧
    signed.transaction.chainId = some c.chainId ∧
    signed.transaction.nonce = s.nonces.getD account 0

section

variable {account : Address} {raw : Bytes} {s s' : State}

theorem Due.aside (h : Due scheme c account raw s) (haside : Aside scheme account s s') :
    Due scheme c account raw s' := by
  obtain ⟨signed, hdecode, hsender, hchain, hturn⟩ := h
  exact ⟨signed, hdecode, hsender, hchain, hturn.trans haside.nonce.symm⟩

/-- The next transaction of an account is taken, unless a refusal is scripted. -/
theorem Due.submit (h : Due scheme c account raw s) :
    (∃ reason, s.rejectNext = some reason ∧
      (submit scheme c raw s).1 = .error (.scripted reason)) ∨
    ∃ hash, (submit scheme c raw s).1 = .ok hash ∧
      ((submit scheme c raw s).2.receipts.get? hash).isSome := by
  obtain ⟨signed, hdecode, hsender, hchain, hturn⟩ := h
  cases hreject : s.rejectNext with
  | some reason => exact .inl ⟨reason, rfl, by simp only [Chain.submit, hdecode, hsender, hreject]⟩
  | none =>
    refine .inr ⟨(mine scheme c account signed s).1, ?_, ?_⟩
    all_goals simp only [Chain.submit, hdecode, hsender, hreject, hchain, hturn, ne_eq,
      not_true_eq_false, if_false]
    rw [mine, Table.get?_set, if_pos rfl]
    rfl

theorem Due.fair (h : Due scheme c account raw s) :
    Scene.Fair scheme c account ⟨s, .query (.sendRaw raw)⟩ := by
  have hsubmit := h.submit
  obtain ⟨signed, hdecode, hsender, -, -⟩ := h
  refine ⟨⟨signed, hdecode, hsender⟩, fun refusal hrefusal => ?_⟩
  obtain ⟨reason, hreject, hscripted⟩ | ⟨hash, hok, -⟩ := hsubmit
  · exact ⟨reason, Except.error.inj (hrefusal.symm.trans hscripted), hreject⟩
  · cases hrefusal.symm.trans hok

/-- A receipt on record is found, unless its loss is scripted. -/
theorem fair_of_receipt {hash : Word} (h : (s.receipts.get? hash).isSome) :
    Scene.Fair scheme c account ⟨s, .query (.awaitReceipt hash)⟩ := by
  intro e he
  obtain ⟨receipt, hreceipt⟩ := Option.isSome_iff_exists.mp h
  cases hlose : s.loseNextReceipt with
  | some reason =>
    simp only [awaitReceipt, hlose] at he
    exact ⟨reason, (Except.error.inj he).symm, rfl⟩
  | none => simp [awaitReceipt, hlose, hreceipt] at he

end

/-! ### What comes before the submission -/

def Quiet : Moment → Prop
  | .acted (.query (.sendRaw _)) _ | .acted (.query (.awaitReceipt _)) _ => False
  | _ => True

theorem reply_of_quiet {act : Act} {r : act.Reply} (h : Quiet (.acted act r)) (s : State) :
    (reply scheme c signer act s).2 = s := by
  match act, r, h with
  | .sign _, _, _ | .query (.balance _), _, _ | .query (.transactionCount _), _, _
  | .query .gasPrice, _, _ | .query .maxPriorityFee, _, _ | .query .chainId, _, _
  | .query (.call _ _), _, _ => rfl

theorem fair_of_quiet {account : Address} {act : Act} {r : act.Reply} (h : Quiet (.acted act r))
    (s : State) : Scene.Fair scheme c account ⟨s, act⟩ := by
  match act, r, h with
  | .sign _, _, _ | .query (.balance _), _, _ | .query (.transactionCount _), _, _
  | .query .gasPrice, _, _ | .query .maxPriorityFee, _, _ | .query .chainId, _, _
  | .query (.call _ _), _, _ => trivial

variable {s s' : State} {ms : List Moment} {scenes : List Scene}

theorem Along.of_quiet (h : Along scheme c signer s ms scenes s')
    (hquiet : ∀ m ∈ ms, Quiet m) :
    AllFair scheme c signer.address scenes ∧ Aside scheme signer.address s s' := by
  induction h with
  | nil s => exact ⟨List.forall_mem_nil _, aside_self⟩
  | reported _ ih => exact ih (List.forall_mem_cons.mp hquiet).2
  | @acted s found s' act ms scenes haside _ ih =>
    obtain ⟨hact, hms⟩ := List.forall_mem_cons.mp hquiet
    obtain ⟨hfair, hrest⟩ := ih hms
    rw [reply_of_quiet hact] at hrest
    exact ⟨List.forall_mem_cons.mpr ⟨fair_of_quiet hact found, hfair⟩, haside.trans hrest⟩

theorem Along.exists_acted {act : Act} {r : act.Reply}
    (h : Along scheme c signer s (.acted act r :: ms) scenes s') :
    ∃ found rest, scenes = ⟨found, act⟩ :: rest ∧ Aside scheme signer.address s found ∧
      (reply scheme c signer act found).1 = r ∧
      Along scheme c signer (reply scheme c signer act found).2 ms rest s' := by
  generalize hms : .acted act r :: ms = ms' at h
  cases h with
  | nil _ => cases hms
  | acted haside h =>
    cases hms
    exact ⟨_, _, rfl, haside, rfl, h⟩
  | reported _ => cases hms

theorem quiet_of_mem_prepared {d : Dispatch} {sequencer : Sequencer} {a : Dispatch.Answers}
    {m : Moment} (h : m ∈ d.prepared sequencer a) : Quiet m := by
  obtain rfl | h | rfl := (Dispatch.mem_prepared_iff d sequencer a).mp h
  · trivial
  · obtain ⟨-, rfl⟩ | ⟨-, rfl⟩ := FeePolicy.mem_reads_iff.mp h
    · trivial
    · trivial
  · trivial

variable {d : Dispatch} {a : Dispatch.Answers}

/-- Once it is signed, the transaction is the next one of the account. -/
theorem Along.due (hread : signer.ReadBack scheme)
    (h : Along scheme c signer s (d.ready (ownSequencer c signer) a) scenes s') :
    AllFair scheme c signer.address scenes ∧ Due scheme c signer.address a.raw s' := by
  obtain ⟨scenes₁, middle, scenes₂, rfl, hprepared, hsigned⟩ := h.exists_append
  have hfair := (hprepared.of_quiet fun _ => quiet_of_mem_prepared).1
  have hfair' := (hsigned.of_quiet (by simp [Quiet])).1
  refine ⟨List.forall_mem_append.mpr ⟨hfair, hfair'⟩, ?_⟩
  obtain ⟨found, _, -, -, hcounted, hreads⟩ := hprepared.exists_acted
  obtain ⟨found', _, -, hbetween, hsign, hreport⟩ := hsigned.exists_acted
  -- Nobody has used the nonce since it was read.
  have hbefore : Aside scheme signer.address found middle :=
    (hreads.of_quiet fun _ hm => quiet_of_mem_prepared (List.mem_cons_of_mem _ hm)).2
  have hafter : Aside scheme signer.address found' s' := (hreport.of_quiet (by simp [Quiet])).2
  have haside := hbefore.trans (hbetween.trans hafter)
  have hturn : a.nonce = s'.nonces.getD signer.address 0 :=
    (Except.ok.inj hcounted).symm.trans haside.nonce.symm
  obtain ⟨signed, hdecode, hcomplete, hsender⟩ := hread _ _ hsign
  rw [Dispatch.complete_request] at hcomplete
  have htransaction := Except.ok.inj hcomplete
  refine ⟨signed, hdecode, hsender, ?_, ?_⟩
  · rw [← htransaction]
    rfl
  · rw [← htransaction]
    exact hturn

/-- The submission fails only if it is scripted to, and otherwise the receipt is there. -/
theorem Along.submission (hread : signer.ReadBack scheme) {r : Except ClientError Word}
    (h : Along scheme c signer s
      (d.ready (ownSequencer c signer) a ++ asked (.sendRaw a.raw) r :: ms) scenes s')
    (hquiet : ∀ m ∈ ms, Quiet m) :
    AllFair scheme c signer.address scenes ∧
      (∀ e, r = .error e → Scripted scenes (.submissionRejected a.nonce e)) ∧
      ∀ hash, r = .ok hash → (s'.receipts.get? hash).isSome := by
  obtain ⟨scenes₁, middle, scenes₂, rfl, hready, hsubmitted⟩ := h.exists_append
  obtain ⟨hfair, hdue⟩ := hready.due hread
  obtain ⟨found, rest, rfl, haside, hreply, hrest⟩ := hsubmitted.exists_acted
  obtain ⟨hfair', hafter⟩ := hrest.of_quiet hquiet
  have hfound := hdue.aside haside
  refine ⟨List.forall_mem_append.mpr ⟨hfair, List.forall_mem_cons.mpr ⟨hfound.fair, hfair'⟩⟩,
    ?_, ?_⟩
  · rintro e rfl
    obtain ⟨refusal, hrefusal, rfl⟩ := Except.mapError_eq_error_iff.mp hreply
    obtain ⟨reason, rfl, hreject⟩ := hfound.fair.2 refusal hrefusal
    exact ⟨⟨found, .query (.sendRaw a.raw)⟩, by simp, a.raw, reason, rfl, hreject, rfl⟩
  · rintro hash rfl
    have hok := Except.mapError_eq_ok_iff.mp hreply
    obtain ⟨reason, -, herror⟩ | ⟨hash', hok', hreceipt⟩ := hfound.submit
    · cases herror.symm.trans hok
    · cases hok'.symm.trans hok
      exact hafter.receipts hash hreceipt

/-- The wait for the receipt fails only if it is scripted to. -/
theorem Along.wait (hread : signer.ReadBack scheme) {r : Except ClientError Receipt}
    (h : Along scheme c signer s
      (d.sent (ownSequencer c signer) a ++ asked (.awaitReceipt a.hash) r :: ms) scenes s')
    (hquiet : ∀ m ∈ ms, Quiet m) :
    AllFair scheme c signer.address scenes ∧
      ∀ e, r = .error e → Scripted scenes (.receiptUnavailable a.hash a.nonce e) := by
  obtain ⟨scenes₁, middle, scenes₂, rfl, hsent, hwaited⟩ := h.exists_append
  obtain ⟨hfair, -, hreceipt⟩ := hsent.submission hread (by simp [Quiet])
  obtain ⟨found, rest, rfl, haside, hreply, hrest⟩ := hwaited.exists_acted
  have hfair' := (hrest.of_quiet hquiet).1
  have hfound : Scene.Fair scheme c signer.address ⟨found, .query (.awaitReceipt a.hash)⟩ :=
    fair_of_receipt (haside.receipts a.hash (hreceipt a.hash rfl))
  refine ⟨List.forall_mem_append.mpr ⟨hfair, List.forall_mem_cons.mpr ⟨hfound, hfair'⟩⟩, ?_⟩
  rintro e rfl
  obtain ⟨reason, rfl, hlose⟩ := hfound e hreply
  exact ⟨⟨found, .query (.awaitReceipt a.hash)⟩, by simp, reason, rfl, hlose, rfl⟩

/-! ### Operations -/

/-- However the operation goes on, all its scenes are fair, and so is its failure. -/
def Orderly (scheme : Scheme) (c : Settings) (signer : Signer) {α : Type} (op : Operation α) :
    Prop :=
  ∀ ⦃ms : List Moment⦄ ⦃result : Except Failure α⦄ ⦃s scenes s'⦄, Runs op ms result →
    Along scheme c signer s ms scenes s' →
      AllFair scheme c signer.address scenes ∧
        ∀ failure, result = .error failure → Scripted scenes failure

theorem orderly_send (hread : signer.ReadBack scheme) (d : Dispatch) :
    Orderly scheme c signer (d.send (ownSequencer c signer)) := by
  intro ms result s scenes s' hruns h
  obtain ⟨a, hcourse⟩ := Dispatch.course_of_runs hruns
  cases hcourse with
  | uncounted e =>
    refine ⟨(h.of_quiet (by simp [Quiet])).1, ?_⟩
    rintro _ ⟨⟩
    trivial
  | unsettled hunsettled =>
    refine ⟨(h.of_quiet fun m hm => ?_).1, ?_⟩
    · obtain rfl | hm := List.mem_cons.mp hm
      · trivial
      · obtain ⟨_, rfl⟩ | ⟨_, rfl⟩ := hunsettled.eq_of_mem hm
        · trivial
        · trivial
    · rintro _ ⟨⟩
      obtain ⟨step, e, rfl⟩ | ⟨cap, least, rfl⟩ := hunsettled.exists_of_error
      · trivial
      · trivial
  | unsigned _ e =>
    refine ⟨(h.of_quiet fun m hm => ?_).1, ?_⟩
    · obtain hm | hm := List.mem_append.mp hm
      · exact quiet_of_mem_prepared hm
      · obtain rfl := List.mem_singleton.mp hm
        trivial
    · rintro _ ⟨⟩
      trivial
  | rejected _ e =>
    obtain ⟨hfair, hscripted, -⟩ := h.submission hread (by simp [Quiet])
    refine ⟨hfair, ?_⟩
    rintro _ ⟨⟩
    exact hscripted e rfl
  | lost _ e =>
    obtain ⟨hfair, hscripted⟩ := h.wait hread (by simp [Quiet])
    refine ⟨hfair, ?_⟩
    rintro _ ⟨⟩
    exact hscripted e rfl
  | reverted _ _ =>
    refine ⟨(h.wait hread (by simp [Quiet])).1, ?_⟩
    rintro _ ⟨⟩
    trivial
  | confirmed _ _ => exact ⟨(h.wait hread (by simp [Quiet])).1, nofun⟩

end Sandwich.Chain
