import Sandwich.Proofs.Fees.Resolution
import Sandwich.Proofs.Sequencer.Course

/-! What the calls of a dispatch are, and what its result tells about them. The
calls are those of a dispatch that succeeds, up to the first one that fails; only
fees that are not in order stop them without one. From the result alone it shows
whether the transaction has reached the node. -/

namespace Sandwich

/-- The failure says that no transaction has been submitted. -/
@[simp] def Failure.Unsent : Failure → Prop
  | read _ _ | invalidFees _ _ | signing _ => True
  | _ => False

/-- The failure says what became of a transaction that has been submitted. -/
@[simp] def Failure.Submitted : Failure → Prop
  | submissionRejected _ _ | receiptUnavailable _ _ _ | reverted _ _ => True
  | _ => False

namespace Dispatch

open Operation Program

def plan (d : Dispatch) (s : Sequencer) (a : Answers) : List (Call Act.Reply) :=
  ⟨.query (.transactionCount s.sender), .ok a.nonce⟩ ::
    (calls (d.policy.reads a.tip a.gasPrice) ++
      [⟨.sign (d.request s a.nonce a.fees), .ok a.raw⟩,
        ⟨.query (.sendRaw a.raw), .ok a.hash⟩,
        ⟨.query (.awaitReceipt a.hash), .ok a.receipt⟩])

/-- The calls are made along `plan`, and all but the last one are answered as there. -/
def Follows (plan cs : List (Call Act.Reply)) : Prop :=
  cs.map (·.1) <+: plan.map (·.1) ∧ cs.dropLast <+: plan

theorem follows_of_prefix {plan cs : List (Call Act.Reply)} (h : cs <+: plan) : Follows plan cs :=
  ⟨h.map _, (List.dropLast_prefix cs).trans h⟩

/-- The call at which the plan is left is one of the plan, whatever the answer to it is. -/
theorem follows_concat (before after : List (Call Act.Reply)) {planned made : Call Act.Reply}
    (h : made.1 = planned.1) : Follows (before ++ planned :: after) (before ++ [made]) := by
  constructor
  · rw [List.map_append, List.map_append, List.prefix_append_right_inj, List.map_singleton, h]
    exact ⟨after.map (·.1), rfl⟩
  · rw [List.dropLast_concat]
    exact List.prefix_append _ _

variable (d : Dispatch) (s : Sequencer) (a : Answers)

theorem calls_prepared : calls (d.prepared s a) =
    ⟨.query (.transactionCount s.sender), .ok a.nonce⟩ ::
      calls (d.policy.reads a.tip a.gasPrice) := by
  simp [prepared, calls]

theorem calls_ready : calls (d.ready s a) =
    calls (d.prepared s a) ++ [⟨.sign (d.request s a.nonce a.fees), .ok a.raw⟩] := by
  simp [ready, calls]

theorem calls_sent : calls (d.sent s a) =
    calls (d.ready s a) ++ [⟨.query (.sendRaw a.raw), .ok a.hash⟩] := by
  simp [sent, calls]

theorem plan_eq_sent : d.plan s a =
    calls (d.sent s a) ++ [⟨.query (.awaitReceipt a.hash), .ok a.receipt⟩] := by
  simp [plan, calls_sent, calls_ready, calls_prepared]

theorem plan_eq_ready : d.plan s a = calls (d.ready s a) ++
    ⟨.query (.sendRaw a.raw), .ok a.hash⟩ ::
      [⟨.query (.awaitReceipt a.hash), .ok a.receipt⟩] := by
  simp [plan, calls_ready, calls_prepared]

theorem plan_eq_prepared : d.plan s a = calls (d.prepared s a) ++
    ⟨.sign (d.request s a.nonce a.fees), .ok a.raw⟩ ::
      [⟨.query (.sendRaw a.raw), .ok a.hash⟩,
        ⟨.query (.awaitReceipt a.hash), .ok a.receipt⟩] := by
  simp [plan, calls_prepared]

variable {d s a} {ms : List Moment} {result : Except Failure Receipt}

theorem follows_of_settlement {settled : Except Failure Fees}
    (h : d.policy.Settlement a.tip a.gasPrice ms settled) :
    Follows (d.plan s a)
      (⟨.query (.transactionCount s.sender), .ok a.nonce⟩ :: calls ms) := by
  cases h with
  | settled =>
    exact follows_of_prefix (by rw [plan_eq_prepared, calls_prepared]; exact List.prefix_append _ _)
  | tipUnread e htip =>
    have hreads : calls (d.policy.reads a.tip a.gasPrice) =
        ⟨.query .maxPriorityFee, .ok a.tip⟩ :: calls (d.policy.priceReads a.gasPrice) := by
      rw [FeePolicy.reads, FeePolicy.tipReads, if_pos htip, calls_append]
      rfl
    rw [plan, hreads]
    exact follows_concat [_] _ rfl
  | priceUnread e hprice =>
    have hreads : calls (d.policy.reads a.tip a.gasPrice) =
        calls (d.policy.tipReads a.tip) ++ [⟨.query .gasPrice, .ok a.gasPrice⟩] := by
      rw [FeePolicy.reads, FeePolicy.priceReads, if_pos hprice, calls_append]
      rfl
    rw [plan, hreads, calls_append, List.append_assoc]
    exact follows_concat (_ :: calls (d.policy.tipReads a.tip)) _ rfl

/-- Whatever course a dispatch takes, it makes its calls along the plan. -/
theorem follows_of_course (h : d.Course s a ms result) : Follows (d.plan s a) (calls ms) := by
  cases h with
  | uncounted e =>
    exact follows_concat [] _ rfl
  | unsettled h => exact follows_of_settlement h
  | unsigned _ e =>
    rw [plan_eq_prepared, calls_append]
    exact follows_concat _ _ rfl
  | rejected _ e =>
    rw [plan_eq_ready, calls_append]
    exact follows_concat _ _ rfl
  | lost _ _ | reverted _ _ | confirmed _ _ =>
    rw [plan_eq_sent, calls_append]
    exact follows_concat _ _ rfl

/-! ### Where the calls stop -/

@[simp] def Failed : Call Act.Reply → Prop
  | ⟨.query _, reply⟩ => ∃ e, reply = .error e
  | ⟨.sign _, reply⟩ => ∃ e, reply = .error e

theorem not_failed_of_mem_plan : ∀ c ∈ d.plan s a, ¬Failed c := by
  have hreads : ∀ c ∈ calls (d.policy.reads a.tip a.gasPrice), ¬Failed c := by
    rw [FeePolicy.reads, FeePolicy.tipReads, FeePolicy.priceReads]
    cases d.policy.leavesTip <;> cases d.policy.leavesPrice <;> simp [calls]
  simp only [plan, List.forall_mem_cons, List.forall_mem_append]
  exact ⟨by simp, hreads, by simp, by simp, by simp, List.forall_mem_nil _⟩

/-- How far the calls of a dispatch get. -/
structure Halts (d : Dispatch) (s : Sequencer) (a : Answers) (ms : List Moment)
    (result : Except Failure Receipt) : Prop where
  /-- A call that fails is the last one. -/
  failed (c : Call Act.Reply) : c ∈ calls ms → Failed c → (calls ms).getLast? = some c
  /-- Fees that are not in order are the end of it once all is read for them. -/
  invalid (cap tip : UInt128) : result = .error (.invalidFees cap tip) →
    calls ms = ⟨.query (.transactionCount s.sender), .ok a.nonce⟩ ::
      calls (d.policy.reads a.tip a.gasPrice)
  /-- Otherwise nothing is left out. -/
  complete : (∀ c ∈ calls ms, ¬Failed c) →
    (∀ cap tip, result ≠ .error (.invalidFees cap tip)) → calls ms = d.plan s a

/-- All but the last call are answered as in the plan. -/
theorem Follows.getLast?_of_failed {cs : List (Call Act.Reply)} (h : Follows (d.plan s a) cs)
    {c : Call Act.Reply} (hc : c ∈ cs) (hfailed : Failed c) : cs.getLast? = some c := by
  obtain rfl | ⟨before, last, hcs⟩ := List.eq_nil_or_concat cs
  · cases hc
  · rw [List.concat_eq_append] at hcs
    subst hcs
    obtain hbefore | hlast := List.mem_append.mp hc
    · have hcalls := h.2
      rw [List.dropLast_concat] at hcalls
      exact absurd hfailed (not_failed_of_mem_plan c (hcalls.subset hbefore))
    · rw [List.mem_singleton.mp hlast, List.getLast?_concat]

theorem calls_eq_plan_of_course (h : d.Course s a ms result)
    (hanswered : ∀ c ∈ calls ms, ¬Failed c)
    (hvalid : ∀ cap tip, result ≠ .error (.invalidFees cap tip)) : calls ms = d.plan s a := by
  cases h with
  | uncounted e =>
    exact absurd ⟨e, rfl⟩ (hanswered _ List.mem_cons_self)
  | unsettled h =>
    generalize herror : Except.error _ = settled at h
    cases h with
    | settled =>
      obtain ⟨cap, least, rfl⟩ := FeePolicy.exists_of_settle_eq_error herror.symm
      exact absurd rfl (hvalid cap least)
    | tipUnread e _ =>
      exact absurd ⟨e, rfl⟩ (hanswered ⟨.query .maxPriorityFee, .error e⟩ (by simp [calls]))
    | priceUnread e _ =>
      exact absurd ⟨e, rfl⟩ (hanswered ⟨.query .gasPrice, .error e⟩ (by simp [calls]))
  | unsigned _ e =>
    exact absurd ⟨e, rfl⟩
      (hanswered ⟨.sign (d.request s a.nonce a.fees), .error e⟩ (by simp [calls]))
  | rejected _ e =>
    exact absurd ⟨e, rfl⟩ (hanswered ⟨.query (.sendRaw a.raw), .error e⟩ (by simp [calls]))
  | lost _ e =>
    exact absurd ⟨e, rfl⟩ (hanswered ⟨.query (.awaitReceipt a.hash), .error e⟩ (by simp [calls]))
  | reverted | confirmed =>
    rw [plan_eq_sent, calls_append]
    rfl

theorem halts_of_course (h : d.Course s a ms result) : Halts d s a ms result := by
  constructor
  case failed => exact fun c => (follows_of_course h).getLast?_of_failed
  case complete => exact calls_eq_plan_of_course h
  case invalid =>
    rintro cap tip rfl
    generalize hinvalid : Except.error _ = result at h
    cases h with
    | unsettled h =>
      cases hinvalid
      generalize herror : Except.error _ = settled at h
      cases h with
      | settled => rfl
      | tipUnread | priceUnread => cases herror
    | uncounted | unsigned | rejected | lost | reverted | confirmed => cases hinvalid

/-! ### What the result tells -/

/-- What the result of a dispatch tells, when `nonce` is the nonce that was read. -/
structure Told (policy : FeePolicy) (s : Sequencer) (nonce : UInt64) (ms : List Moment)
    (result : Except Failure Receipt) : Prop where
  unsent : (∃ failure : Failure, failure.Unsent ∧ result = .error failure) ↔
    ∀ raw reply, asked (.sendRaw raw) reply ∉ ms
  exhausted (failure : Failure) : result = .error failure → failure.Unsent ∨ failure.Submitted
  uncounted (e : ClientError) : result = .error (.read .nonce e) ↔
    asked (.transactionCount s.sender) (.error e) ∈ ms
  tipUnread (e : ClientError) : result = .error (.read .priorityFee e) ↔
    asked .maxPriorityFee (.error e) ∈ ms
  priceUnread (e : ClientError) : result = .error (.read .gasPrice e) ↔
    asked .gasPrice (.error e) ∈ ms
  /-- The only thing that can be wrong with fees is a cap that is given, below the tip that is given
  or was read. -/
  invalid (cap tip : UInt128) : result = .error (.invalidFees cap tip) ↔
    asked (.transactionCount s.sender) (.ok nonce) ∈ ms ∧
      ∃ given, policy = .dynamic given (some cap) ∧ FeePolicy.TipFrom ms given tip ∧
        cap.toNat < tip.toNat
  unsigned (e : SigningError) : result = .error (.signing e) ↔
    ∃ request, signed request (.error e) ∈ ms
  rejected (n : UInt64) (e : ClientError) : result = .error (.submissionRejected n e) ↔
    n = nonce ∧ ∃ raw, asked (.sendRaw raw) (.error e) ∈ ms
  unavailable (hash : Word) (n : UInt64) (e : ClientError) :
    result = .error (.receiptUnavailable hash n e) ↔
      n = nonce ∧ asked (.awaitReceipt hash) (.error e) ∈ ms
  reverted (hash : Word) (gasUsed : UInt64) : result = .error (.reverted hash gasUsed) ↔
    ∃ receipt, asked (.awaitReceipt hash) (.ok receipt) ∈ ms ∧ receipt.success = false ∧
      receipt.gasUsed = gasUsed
  confirmed (receipt : Receipt) : result = .ok receipt ↔
    receipt.success = true ∧ ∃ hash, asked (.awaitReceipt hash) (.ok receipt) ∈ ms

/-- Whatever happens besides, the cap is below the tip just if the fees come to that. -/
theorem exists_given_iff {fee : List Moment} {settled : Except Failure Fees}
    (h : d.policy.Settlement a.tip a.gasPrice fee settled)
    (hmem : ∀ tip, asked .maxPriorityFee (.ok tip) ∈ ms ↔ asked .maxPriorityFee (.ok tip) ∈ fee)
    {cap tip : UInt128} :
    (∃ given, d.policy = .dynamic given (some cap) ∧ FeePolicy.TipFrom ms given tip ∧
      cap.toNat < tip.toNat) ↔ settled = .error (.invalidFees cap tip) := by
  rw [(FeePolicy.resolved_of_settlement h).invalid]
  simp only [FeePolicy.TipFrom, hmem]

theorem invalidFees_iff_of_course (h : d.Course s a ms result) (cap tip : UInt128) :
    result = .error (.invalidFees cap tip) ↔
      asked (.transactionCount s.sender) (.ok a.nonce) ∈ ms ∧
        ∃ given, d.policy = .dynamic given (some cap) ∧ FeePolicy.TipFrom ms given tip ∧
          cap.toNat < tip.toNat := by
  cases h with
  | uncounted e => simp
  | unsettled h =>
    rw [and_iff_right List.mem_cons_self, exists_given_iff h (by simp)]
    simp
  | unsigned h _ | rejected h _ | lost h _ | reverted h _ | confirmed h _ =>
    refine iff_of_false nofun ?_
    rintro ⟨-, hgiven⟩
    have hinvalid := (exists_given_iff (a := a) .settled (by simp)).mp hgiven
    rw [h] at hinvalid
    cases hinvalid

/-! For each course, one clause speaks of how it ends, and the others of calls that it lacks. -/

theorem told_of_settlement {failure : Failure}
    (h : d.policy.Settlement a.tip a.gasPrice ms (.error failure)) :
    Told d.policy s a.nonce (asked (.transactionCount s.sender) (.ok a.nonce) :: ms)
      (.error failure) := by
  have hinvalid := invalidFees_iff_of_course (s := s) (.unsettled h)
  generalize herror : Except.error _ = settled at h
  cases h with
  | tipUnread e _ =>
    cases herror
    constructor
    case tipUnread => exact fun e' => by simpa using eq_comm
    case invalid => exact hinvalid
    all_goals simp
  | priceUnread e _ =>
    cases herror
    constructor
    case priceUnread => exact fun e' => by simpa using eq_comm
    case invalid => exact hinvalid
    all_goals simp
  | settled =>
    obtain ⟨cap, least, rfl⟩ := FeePolicy.exists_of_settle_eq_error herror.symm
    constructor
    case invalid => exact hinvalid
    all_goals simp

theorem told_of_lost (h : a.Settled d) (e : ClientError) :
    Told d.policy s a.nonce (d.sent s a ++ [asked (.awaitReceipt a.hash) (.error e)])
      (.error (.receiptUnavailable a.hash a.nonce e)) := by
  constructor
  case invalid => exact invalidFees_iff_of_course (.lost h e)
  case unavailable =>
    intro hash n e'
    suffices h : a.hash = hash ∧ a.nonce = n ∧ e = e' ↔
        n = a.nonce ∧ hash = a.hash ∧ e' = e by simpa using h
    constructor
    · rintro ⟨rfl, rfl, rfl⟩
      exact ⟨rfl, rfl, rfl⟩
    · rintro ⟨rfl, rfl, rfl⟩
      exact ⟨rfl, rfl, rfl⟩
  all_goals simp

theorem told_of_reverted (h : a.Settled d) (hfail : a.receipt.success = false) :
    Told d.policy s a.nonce
      (d.sent s a ++ [asked (.awaitReceipt a.hash) (.ok a.receipt),
        .reported (.reverted a.hash a.receipt.gasUsed)])
      (.error (.reverted a.hash a.receipt.gasUsed)) := by
  constructor
  case invalid => exact invalidFees_iff_of_course (.reverted h hfail)
  case reverted =>
    intro hash gasUsed
    suffices h : a.hash = hash ∧ a.receipt.gasUsed = gasUsed ↔ ∃ receipt : Receipt,
        (hash = a.hash ∧ receipt = a.receipt) ∧ receipt.success = false ∧
          receipt.gasUsed = gasUsed by simpa using h
    constructor
    · rintro ⟨rfl, rfl⟩
      exact ⟨a.receipt, ⟨rfl, rfl⟩, hfail, rfl⟩
    · rintro ⟨receipt, ⟨rfl, rfl⟩, -, rfl⟩
      exact ⟨rfl, rfl⟩
  case confirmed =>
    intro receipt
    suffices h : receipt.success = true → receipt ≠ a.receipt by simpa using h
    rintro hsuccess rfl
    rw [hfail] at hsuccess
    cases hsuccess
  all_goals simp

theorem told_of_confirmed (h : a.Settled d) (hsuccess : a.receipt.success = true) :
    Told d.policy s a.nonce
      (d.sent s a ++ [asked (.awaitReceipt a.hash) (.ok a.receipt),
        .reported (.confirmed a.hash a.receipt.gasUsed)])
      (.ok a.receipt) := by
  constructor
  case invalid => exact invalidFees_iff_of_course (.confirmed h hsuccess)
  case reverted =>
    intro hash gasUsed
    simp [hsuccess]
  case confirmed =>
    intro receipt
    suffices h : a.receipt = receipt ↔ receipt.success = true ∧ receipt = a.receipt by
      simpa using h
    constructor
    · rintro rfl
      exact ⟨hsuccess, rfl⟩
    · rintro ⟨-, rfl⟩
      rfl
  all_goals simp

theorem told_of_course (h : d.Course s a ms result) : Told d.policy s a.nonce ms result := by
  have hinvalid := invalidFees_iff_of_course h
  cases h with
  | uncounted e =>
    constructor
    case uncounted => exact fun e' => by simpa using eq_comm
    case invalid => exact hinvalid
    all_goals simp
  | unsettled h => exact told_of_settlement h
  | unsigned _ e =>
    constructor
    case unsigned => exact fun e' => by simpa using eq_comm
    case invalid => exact hinvalid
    all_goals simp
  | rejected _ e =>
    constructor
    case rejected => exact fun n e' => by simpa using and_congr eq_comm eq_comm
    case invalid => exact hinvalid
    all_goals simp
  | lost h e => exact told_of_lost h e
  | reverted h hfail => exact told_of_reverted h hfail
  | confirmed h hsuccess => exact told_of_confirmed h hsuccess

/-- A dispatch that gets as far as the signing has its fees settled. -/
theorem settled_of_signed (h : d.Course s a ms result) {request : Transaction.Request}
    {reply : Except SigningError Bytes} (hsigned : signed request reply ∈ ms) :
    request = d.request s a.nonce a.fees ∧ a.Settled d := by
  cases h with
  | uncounted e => simp at hsigned
  | unsettled h =>
    have hmem := (List.mem_cons.mp hsigned).resolve_left nofun
    obtain ⟨_, heq⟩ | ⟨_, heq⟩ := h.eq_of_mem hmem
    · cases heq
    · cases heq
  | unsigned h e =>
    have heq : request = d.request s a.nonce a.fees ∧ reply = .error e := by
      simpa using hsigned
    exact ⟨heq.1, h⟩
  | rejected h _ | lost h _ | reverted h _ | confirmed h _ =>
    have heq : request = d.request s a.nonce a.fees ∧ reply = .ok a.raw := by
      simpa using hsigned
    exact ⟨heq.1, h⟩

/-- Whatever the node and the signer reply, a transaction is sent by calls along the plan, which
go on until one fails or the fees do, and its result tells where they stopped. -/
theorem sendValue_calls (d : Dispatch) (s : Sequencer) {σ : Type}
    (surroundings : (act : Act) → σ → act.Reply × σ) (start : σ) :
    let o := (s.sendValue d.receiver d.input d.value d.policy d.gasLimit).run.run surroundings start
    ∃ a : Answers,
      d.Course s a o.moments o.result ∧
      o.actions <+: (d.plan s a).map (·.1) ∧
      (calls o.moments).dropLast <+: d.plan s a ∧
      (∀ request, .sign request ∈ o.actions →
        request = d.request s a.nonce a.fees ∧ d.policy.settle a.tip a.gasPrice = .ok a.fees) ∧
      Halts d s a o.moments o.result ∧
      Told d.policy s a.nonce o.moments o.result := by
  intro o
  obtain ⟨a, hcourse⟩ := course_of_runs (d := d) (runs_run surroundings (d.send s).run start)
  obtain ⟨hactions, hcalls⟩ := follows_of_course hcourse
  refine ⟨a, hcourse, ?_, hcalls, ?_, halts_of_course hcourse, told_of_course hcourse⟩
  · rw [Outcome.actions_eq]
    exact hactions
  · intro request hrequest
    obtain ⟨reply, hsigned⟩ := Outcome.mem_actions_iff.mp hrequest
    exact settled_of_signed hcourse hsigned

end Dispatch

end Sandwich
