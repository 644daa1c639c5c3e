import Sandwich.Proofs.Fees
import Sandwich.Sequencer

/-! The courses that the sending of a transaction can take. The node and the
signer may reply anything at each call. The first reply that is a failure ends
the course, and a course without one ends in what the receipt says. -/

namespace Sandwich

/-- What is to be sent, and on what terms. -/
structure Dispatch where
  receiver : Address
  input : Bytes
  value : UInt256
  policy : FeePolicy
  gasLimit : UInt64
deriving DecidableEq

namespace Dispatch

open Operation

def send (d : Dispatch) (s : Sequencer) : Operation Receipt :=
  s.sendValue d.receiver d.input d.value d.policy d.gasLimit

/-- What the signer is asked for. Fees of one family are set, and none of the other. -/
def request (d : Dispatch) (s : Sequencer) (nonce : UInt64) (fees : Fees) : Transaction.Request :=
  let open_ : Transaction.Request := {
    receiver := some d.receiver
    input := d.input
    value := some d.value
    nonce := some nonce
    gasLimit := some d.gasLimit
    chainId := some s.chainId }
  match fees with
  | .legacy gasPrice => { open_ with gasPrice := some gasPrice }
  | .dynamic tip cap => { open_ with tip := some tip, cap := some cap }

theorem ofTransaction_eq_request (d : Dispatch) (s : Sequencer) (nonce : UInt64) (fees : Fees) :
    Transaction.Request.ofTransaction {
      chainId := some s.chainId
      nonce
      gasLimit := d.gasLimit
      receiver := some d.receiver
      value := d.value
      input := d.input
      kind := fees.kind } = d.request s nonce fees := by
  cases fees <;> rfl

/-! ### The stages of a course -/

/-- What comes about in a dispatch that succeeds. -/
structure Answers where
  nonce : UInt64
  /-- The tip that the node suggests, if it is asked. -/
  tip : UInt128
  /-- The gas price, if the node is asked. -/
  gasPrice : UInt128
  /-- What the fee policy comes to. -/
  fees : Fees
  raw : Bytes
  hash : Word
  receipt : Receipt

def Answers.blank : Answers where
  nonce := 0
  tip := 0
  gasPrice := 0
  fees := .legacy 0
  raw := []
  hash := Octets.zero 32
  receipt := ⟨Octets.zero 32, false, 0, []⟩

variable (d : Dispatch) (s : Sequencer) (a : Answers)

def Answers.Settled : Prop := d.policy.settle a.tip a.gasPrice = .ok a.fees

/-- All that comes before the signing. -/
def prepared : List Moment :=
  asked (.transactionCount s.sender) (.ok a.nonce) ::
    (d.policy.reads a.tip a.gasPrice ++
      [.reported (.building s.sender d.receiver a.nonce a.fees d.gasLimit d.value d.input.length)])

def ready : List Moment :=
  d.prepared s a ++ [signed (d.request s a.nonce a.fees) (.ok a.raw), .reported (.signed a.raw)]

def sent : List Moment :=
  d.ready s a ++ [asked (.sendRaw a.raw) (.ok a.hash), .reported (.submitted a.hash a.nonce)]

@[simp] theorem mem_prepared_iff {m : Moment} : m ∈ d.prepared s a ↔
    m = asked (.transactionCount s.sender) (.ok a.nonce) ∨
      m ∈ d.policy.reads a.tip a.gasPrice ∨
      m = .reported (.building s.sender d.receiver a.nonce a.fees d.gasLimit d.value
        d.input.length) := by
  simp [prepared]

@[simp] theorem mem_ready_iff {m : Moment} : m ∈ d.ready s a ↔
    m ∈ d.prepared s a ∨ m = signed (d.request s a.nonce a.fees) (.ok a.raw) ∨
      m = .reported (.signed a.raw) := by
  simp [ready]

@[simp] theorem mem_sent_iff {m : Moment} : m ∈ d.sent s a ↔
    m ∈ d.ready s a ∨ m = asked (.sendRaw a.raw) (.ok a.hash) ∨
      m = .reported (.submitted a.hash a.nonce) := by
  simp [sent]

/-- The ways in which a dispatch can go and end. -/
inductive Course : List Moment → Except Failure Receipt → Prop
  | uncounted (e : ClientError) :
      Course [asked (.transactionCount s.sender) (.error e)] (.error (.read .nonce e))
  | unsettled {ms : List Moment} {failure : Failure}
      (h : d.policy.Settlement a.tip a.gasPrice ms (.error failure)) :
      Course (asked (.transactionCount s.sender) (.ok a.nonce) :: ms) (.error failure)
  | unsigned (h : a.Settled d) (e : SigningError) :
      Course (d.prepared s a ++ [signed (d.request s a.nonce a.fees) (.error e)])
        (.error (.signing e))
  | rejected (h : a.Settled d) (e : ClientError) :
      Course (d.ready s a ++ [asked (.sendRaw a.raw) (.error e)])
        (.error (.submissionRejected a.nonce e))
  | lost (h : a.Settled d) (e : ClientError) :
      Course (d.sent s a ++ [asked (.awaitReceipt a.hash) (.error e)])
        (.error (.receiptUnavailable a.hash a.nonce e))
  | reverted (h : a.Settled d) (hfail : a.receipt.success = false) :
      Course (d.sent s a ++ [asked (.awaitReceipt a.hash) (.ok a.receipt),
        .reported (.reverted a.hash a.receipt.gasUsed)])
        (.error (.reverted a.hash a.receipt.gasUsed))
  | confirmed (h : a.Settled d) (hsuccess : a.receipt.success = true) :
      Course (d.sent s a ++ [asked (.awaitReceipt a.hash) (.ok a.receipt),
        .reported (.confirmed a.hash a.receipt.gasUsed)])
        (.ok a.receipt)

variable {d s}

/-- However the node and the signer behave, a dispatch takes one of the courses. -/
theorem course_of_runs {ms : List Moment} {result : Except Failure Receipt}
    (h : Runs (d.send s) ms result) : ∃ a, d.Course s a ms result := by
  simp only [send, Sequencer.sendValue, ofTransaction_eq_request] at h
  obtain ⟨e, rfl, rfl⟩ | ⟨nonce, ms₁, rfl, hfees⟩ := runs_query_bind_iff.mp h
  · exact ⟨.blank, .uncounted e⟩
  obtain ⟨failure, hfail, rfl⟩ | ⟨ms₂, fees, ms₃, hsettled, hbuild, rfl⟩ := runs_bind_iff.mp hfees
  · obtain ⟨tip, gasPrice, hsettlement⟩ := FeePolicy.settlement_of_runs hfail
    exact ⟨{ Answers.blank with nonce, tip, gasPrice }, .unsettled hsettlement⟩
  obtain ⟨tip, gasPrice, hsettlement⟩ := FeePolicy.settlement_of_runs hsettled
  obtain ⟨hsettle, rfl⟩ := hsettlement.eq_of_ok
  obtain ⟨ms₄, rfl, hsign⟩ := runs_report_bind_iff.mp hbuild
  obtain ⟨e, rfl, rfl⟩ | ⟨raw, ms₅, rfl, hsigned⟩ := runs_sign_bind_iff.mp hsign
  · let a : Answers := { Answers.blank with nonce, tip, gasPrice, fees }
    have hcourse : d.Course s a _ _ := .unsigned (show a.Settled d from hsettle) e
    exact ⟨a, by simpa [prepared] using hcourse⟩
  obtain ⟨ms₆, rfl, hsubmit⟩ := runs_report_bind_iff.mp hsigned
  obtain ⟨e, rfl, rfl⟩ | ⟨hash, ms₇, rfl, hsubmitted⟩ := runs_query_bind_iff.mp hsubmit
  · let a : Answers := { Answers.blank with nonce, tip, gasPrice, fees, raw }
    have hcourse : d.Course s a _ _ := .rejected (show a.Settled d from hsettle) e
    exact ⟨a, by simpa [ready, prepared] using hcourse⟩
  obtain ⟨ms₈, rfl, hawait⟩ := runs_report_bind_iff.mp hsubmitted
  obtain ⟨e, rfl, rfl⟩ | ⟨receipt, ms₉, rfl, hreceipt⟩ := runs_query_bind_iff.mp hawait
  · let a : Answers := { Answers.blank with nonce, tip, gasPrice, fees, raw, hash }
    have hcourse : d.Course s a _ _ := .lost (show a.Settled d from hsettle) e
    exact ⟨a, by simpa [sent, ready, prepared] using hcourse⟩
  let a : Answers := { nonce, tip, gasPrice, fees, raw, hash, receipt }
  split at hreceipt
  next hsuccess =>
    obtain ⟨rest, rfl, hend⟩ := runs_report_bind_iff.mp hreceipt
    obtain ⟨rfl, rfl⟩ := runs_pure_iff.mp hend
    have hcourse : d.Course s a _ _ := .confirmed hsettle hsuccess
    exact ⟨a, by simpa [sent, ready, prepared] using hcourse⟩
  next hfail =>
    obtain ⟨rest, rfl, hend⟩ := runs_report_bind_iff.mp hreceipt
    obtain ⟨rfl, rfl⟩ := runs_throw_iff.mp hend
    have hcourse : d.Course s a _ _ := .reverted hsettle (eq_false_of_ne_true hfail)
    exact ⟨a, by simpa [sent, ready, prepared] using hcourse⟩

end Dispatch

end Sandwich
