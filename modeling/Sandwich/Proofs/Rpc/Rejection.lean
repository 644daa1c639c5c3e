import Sandwich.Proofs.Chain.NonceSafety
import Sandwich.Proofs.Sequencer.Calls
import Sandwich.Rpc.Node

/-! Transactions that are sent over the wire, and what a failed submission says. A
transaction is reported as rejected whenever its submission is not answered with a
hash. That can be because the node refuses it, but also because its answer is lost
or cannot be read, and then the node may well have taken it. -/

namespace Sandwich

namespace Dispatch

open Operation

def Unsubmitted (ms : List Moment) : Prop := ∀ raw reply, asked (.sendRaw raw) reply ∉ ms

/-- A dispatch submits one transaction at most, and has read its nonce before. -/
theorem submission_of_course {d : Dispatch} {s : Sequencer} {a : Answers} {ms : List Moment}
    {result : Except Failure Receipt} (h : d.Course s a ms result) :
    Unsubmitted ms ∨ ∃ before reply after,
      ms = before ++ asked (.sendRaw a.raw) reply :: after ∧ Unsubmitted before ∧
        Unsubmitted after ∧ asked (.transactionCount s.sender) (.ok a.nonce) ∈ before := by
  cases h with
  | uncounted e => exact .inl (by simp [Unsubmitted])
  | unsettled h =>
    refine .inl fun raw reply hmem => ?_
    have hread := (List.mem_cons.mp hmem).resolve_left nofun
    obtain ⟨_, heq⟩ | ⟨_, heq⟩ := h.eq_of_mem hread
    · cases heq
    · cases heq
  | unsigned _ e => exact .inl (by simp [Unsubmitted])
  | rejected _ e =>
    exact .inr ⟨d.ready s a, .error e, [], rfl, by simp [Unsubmitted], by simp [Unsubmitted],
      by simp⟩
  | lost _ _ | reverted _ _ | confirmed _ _ =>
    refine .inr ⟨d.ready s a, .ok a.hash, _, List.append_assoc _ _ _, ?_, ?_, ?_⟩
    all_goals simp [Unsubmitted]

end Dispatch

namespace Rpc

open Program

abbrev Moment : Type := Program.Moment Act.Reply

abbrev sent (q : Query) (response : Response) : Moment := .acted (.send (.ofQuery q)) response

/-- The response to a transaction that is submitted at one point, if one is. -/
def submission? : Moment → Option Response
  | .acted (.send request) response =>
    if request.method = "eth_sendRawTransaction" then some response else none
  | _ => none

theorem submission?_sent_of_ne {q : Query} (h : ∀ raw, q ≠ .sendRaw raw) (response : Response) :
    submission? (sent q response) = none := by
  cases q with
  | sendRaw raw => exact absurd rfl (h raw)
  | balance _ | transactionCount _ | gasPrice | maxPriorityFee | chainId | call _ _
  | awaitReceipt _ => simp [submission?, Request.ofQuery]

/-! ### The questions of an operation -/

theorem of_mem_runs_awaitReceipt {maxErrors : Nat} {hash : Word} {polls errors : Nat}
    {ms : List Moment} {result : Option (Except ClientError Receipt)}
    (h : Runs (awaitReceipt maxErrors hash polls errors) ms result) {m : Moment} (hm : m ∈ ms) :
    (∃ event, m = .reported event) ∨ ∃ response, m = sent (.awaitReceipt hash) response := by
  induction polls generalizing errors ms with
  | zero =>
    obtain ⟨rfl, -⟩ := runs_done_iff.mp h
    cases hm
  | succ polls ih =>
    obtain ⟨response, rest, rfl, hrest⟩ := runs_act_iff.mp h
    obtain rfl | hm := List.mem_cons.mp hm
    · exact .inr ⟨response, rfl⟩
    simp only at hrest
    split at hrest
    · obtain ⟨rfl, -⟩ := runs_done_iff.mp hrest
      cases hm
    · split at hrest
      · obtain ⟨rest', rfl, hpolls⟩ := runs_report_iff.mp hrest
        obtain rfl | hm := List.mem_cons.mp hm
        · exact .inl ⟨_, rfl⟩
        · exact ih hpolls hm
      · exact ih hrest hm

/-- All that is sent for a question asks that question. -/
theorem of_mem_runs_ask {client : Client} {q : Query} {ms : List Moment}
    {reply : Except ClientError q.Answer} (h : Runs (client.ask q) ms reply) {m : Moment}
    (hm : m ∈ ms) : (∃ event, m = .reported event) ∨ ∃ response, m = sent q response := by
  cases q with
  | awaitReceipt hash =>
    obtain ⟨ms₁, result, ms₂, hawait, hrest, rfl⟩ := runs_bind_iff.mp h
    have hnil : ms₂ = [] := by
      cases result with
      | none => exact (runs_done_iff.mp hrest).1
      | some _ => exact (runs_done_iff.mp hrest).1
    rw [hnil, List.append_nil] at hm
    exact of_mem_runs_awaitReceipt hawait hm
  | balance _ | transactionCount _ | gasPrice | maxPriorityFee | chainId | call _ _ | sendRaw _ =>
    obtain ⟨response, rest, rfl, hrest⟩ := runs_act_iff.mp h
    obtain ⟨rfl, -⟩ := runs_done_iff.mp hrest
    exact .inr ⟨response, List.mem_singleton.mp hm⟩

variable {client : Client} {ms : List Operation.Moment} {ns : List Moment}

theorem submissions_eq_nil (h : Expands client.carryOut ms ns) (hms : Dispatch.Unsubmitted ms) :
    ns.filterMap submission? = [] := by
  rw [List.filterMap_eq_nil_iff]
  intro n hn
  obtain ⟨event, rfl⟩ | ⟨act, reply, block, hact, hblock, hn⟩ := h.of_mem hn
  · rfl
  cases act with
  | sign request =>
    obtain ⟨_, rest, rfl, hrest⟩ := runs_act_iff.mp hblock
    obtain ⟨rfl, -⟩ := runs_done_iff.mp hrest
    obtain rfl := List.mem_singleton.mp hn
    rfl
  | query q =>
    obtain ⟨event, rfl⟩ | ⟨response, rfl⟩ := of_mem_runs_ask hblock hn
    · rfl
    · refine submission?_sent_of_ne ?_ response
      rintro raw rfl
      exact hms raw reply hact

/-- A question that is not polled for is sent once, and the reply is read off the response. -/
theorem exists_sent_of_expands {q : Query} {reply : Except ClientError q.Answer}
    (hq : ∀ hash, q ≠ .awaitReceipt hash)
    (h : Expands client.carryOut (Operation.asked q reply :: ms) ns) :
    ∃ response rest, ns = sent q response :: rest ∧ response.answer? q = reply ∧
      Expands client.carryOut ms rest := by
  cases h with
  | acted hblock h =>
    cases q with
    | awaitReceipt hash => exact absurd rfl (hq hash)
    | balance _ | transactionCount _ | gasPrice | maxPriorityFee | chainId | call _ _
    | sendRaw _ =>
      obtain ⟨response, rest, rfl, hrest⟩ := runs_act_iff.mp hblock
      obtain ⟨rfl, hreply⟩ := runs_done_iff.mp hrest
      exact ⟨response, _, rfl, hreply, h⟩

/-! ### Submissions that are not answered with a hash -/

/-- The response to a submission holds no hash; the error is what is made of it. -/
inductive Response.Denies : Response → ClientError → Prop
  /-- The node refuses the transaction. -/
  | refused (code : Int) (message : String) (data : Option Json) :
      Denies (.error code message data) (.refused code message (data.map Json.render))
  /-- Nothing comes back. -/
  | lost (reason : String) : Denies (.lost reason) (.transport reason)
  /-- What comes back is no hash. -/
  | unreadable (raw : Bytes) {value : Json} (h : octets? 32 value = none) :
      Denies (.result value) (.unreadable (mismatch (.sendRaw raw) value))

theorem denies_iff (raw : Bytes) {response : Response} {e : ClientError} :
    response.answer? (.sendRaw raw) = .error e ↔ response.Denies e := by
  cases response with
  | error code message data =>
    constructor
    · rintro ⟨⟩
      exact .refused code message data
    · rintro ⟨⟩
      rfl
  | lost reason =>
    constructor
    · rintro ⟨⟩
      exact .lost reason
    · rintro ⟨⟩
      rfl
  | result value =>
    have hanswer : Rpc.answer? (.sendRaw raw) value = octets? 32 value := rfl
    rw [Response.answer?, Response.result?, Except.bind_eq_error_iff]
    cases hvalue : octets? 32 value with
    | some hash =>
      refine iff_of_false (by simp [hanswer, hvalue, pure, Except.pure]) ?_
      rintro ⟨⟩
      next hnone => exact nomatch hvalue.symm.trans hnone
    | none =>
      simp only [reduceCtorEq, Except.ok.injEq, exists_eq_left', hanswer, hvalue, false_or]
      constructor
      · rintro ⟨⟩
        exact .unreadable raw hvalue
      · rintro ⟨⟩
        rfl

/-- What became of the submission in a sending over the wire, as told by the result. -/
structure SubmissionTold (s : Sequencer) (ms : List Moment) (nonce : UInt64)
    (result : Except Failure Receipt) : Prop where
  /-- Nothing is submitted twice. -/
  once : (ms.filterMap submission?).length ≤ 1
  /-- If a transaction is submitted, `nonce` is the one that the node gave. -/
  counted : ms.filterMap submission? ≠ [] →
    ∃ response, sent (.transactionCount s.sender) response ∈ ms ∧
      response.answer? (.transactionCount s.sender) = .ok nonce
  /-- It is reported as rejected just if the response holds no hash, for whatever reason. -/
  rejected (n : UInt64) (e : ClientError) : result = .error (.submissionRejected n e) ↔
    n = nonce ∧ ∃ response ∈ ms.filterMap submission?, response.Denies e

theorem submissionTold_of_expands {d : Dispatch} {s : Sequencer} {a : Dispatch.Answers}
    {result : Except Failure Receipt} (hcourse : d.Course s a ms result)
    (h : Expands client.carryOut ms ns) : SubmissionTold s ns a.nonce result := by
  have htold := (Dispatch.told_of_course hcourse).rejected
  obtain hnone | ⟨before, reply, after, rfl, hbefore, hafter, hcounted⟩ :=
    Dispatch.submission_of_course hcourse
  · have hnil := submissions_eq_nil h hnone
    refine ⟨by simp [hnil], by simp [hnil], fun n e => (htold n e).trans ?_⟩
    have hnot : ¬ ∃ raw, Operation.asked (.sendRaw raw) (.error e) ∈ ms :=
      fun ⟨raw, hmem⟩ => hnone raw _ hmem
    simp [hnil, hnot]
  · obtain ⟨ns₁, ns₂, rfl, h₁, h₂⟩ := h.exists_append
    obtain ⟨response, rest, rfl, hreply, hrest⟩ := exists_sent_of_expands (by simp) h₂
    have hone : (ns₁ ++ sent (.sendRaw a.raw) response :: rest).filterMap submission? =
        [response] := by
      rw [List.filterMap_append, submissions_eq_nil h₁ hbefore, List.nil_append,
        List.filterMap_cons_some (b := response) (by rfl), submissions_eq_nil hrest hafter]
    refine ⟨by simp [hone], fun _ => ?_, fun n e => (htold n e).trans ?_⟩
    · obtain ⟨before₁, before₂, rfl⟩ := List.append_of_mem hcounted
      obtain ⟨ns₃, ns₄, rfl, -, h₄⟩ := h₁.exists_append
      obtain ⟨answer, rest', rfl, hanswer, -⟩ := exists_sent_of_expands (by simp) h₄
      exact ⟨answer, by simp, hanswer⟩
    · rw [hone]
      refine and_congr_right fun _ => ?_
      simp only [List.mem_singleton, exists_eq_left, ← denies_iff a.raw, hreply]
      constructor
      · rintro ⟨raw, hmem⟩
        obtain hmem | hmem := List.mem_append.mp hmem
        · exact absurd hmem (hbefore raw _)
        obtain heq | hmem := List.mem_cons.mp hmem
        · cases heq
          rfl
        · exact absurd hmem (hafter raw _)
      · rintro rfl
        exact ⟨a.raw, by simp⟩

/-- However the node and the wire behave, a transaction that is sent over the wire is reported as
rejected just if its submission is not answered with a hash. That is so where the node refuses it,
and where its answer is lost or cannot be read. -/
theorem submissionTold_run (client : Client) (d : Dispatch) (s : Sequencer) {σ : Type}
    (surroundings : (act : Act) → σ → act.Reply × σ) (start : σ) :
    let o := (client.connect (d.send s)).run surroundings start
    ∃ nonce, SubmissionTold s o.moments nonce o.result := by
  intro o
  obtain ⟨ms, hruns, h⟩ :=
    exists_expands_of_runs (runs_run surroundings (client.connect (d.send s)) start)
  obtain ⟨a, hcourse⟩ := Dispatch.course_of_runs hruns
  exact ⟨a.nonce, submissionTold_of_expands hcourse h⟩

/-! ### An answer that gets lost -/

def Response.refuses : Response → Bool
  | .error _ _ _ => true
  | _ => false

/-- A chain on the wire whose answers to submissions get lost on their way back. -/
def lossy (act : Act) (s : Chain.State) : act.Reply × Chain.State :=
  let (reply, s) := serve (Chain.answer World.raceScheme {}) World.racer.sign act s
  match act, reply with
  | .sign _, reply => (reply, s)
  | .send request, response =>
    if request.method = "eth_sendRawTransaction" then (.lost "connection reset", s)
    else (response, s)

/-- A transfer that the chain takes is reported as rejected, though nothing refuses it. -/
theorem submissionRejected_of_lost :
    let o := (Client.connect ⟨5, 1⟩ (World.raceDispatch.send ⟨Chain.devAccount, 1⟩)).run lossy
      World.raceStart
    o.result = .error (.submissionRejected 7 (.transport "connection reset")) ∧
      (o.moments.filterMap submission?).map Response.refuses = [false] ∧
      o.state.submitted = [World.raceTransfer.signed] := by
  decide +kernel

end Rpc

end Sandwich
