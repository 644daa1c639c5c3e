import Mathlib.Data.List.Forall2
import Mathlib.Order.Bounds.Basic
import Sandwich.Proofs.Rpc.Node
import Sandwich.Proofs.Rpc.Rejection

/-! Waiting for a receipt. The responses to the polls come one after another, and there
is no last one. Waiting ends at the first poll that finds the receipt, and at the first
one that fails after as many failures in a row as are put up with. The count of failures
that is kept on the way is that of the failed polls right before. -/

namespace Sandwich.Rpc

open Program

/-! ### What a receipt is made of -/

/-- The event has the parts that the object says. -/
structure ShowsLog (value : Json) (log : Log) : Prop where
  address : required (octets? 20) "address" value = some log.address
  topics : ∃ items, required array? "topics" value = some items ∧
    List.Forall₂ (fun item topic => octets? 32 item = some topic) items log.topics
  data : required bytes? "data" value = some log.data

structure Shows (value : Json) (receipt : Receipt) : Prop where
  hash : required (octets? 32) "transactionHash" value = some receipt.hash
  success : success? value = some receipt.success
  gasUsed : required (quantity? 64) "gasUsed" value = some receipt.gasUsed.toNat
  logs : ∃ items, required array? "logs" value = some items ∧
    List.Forall₂ ShowsLog items receipt.logs

theorem forall₂_of_mapM {α β : Type} {f : α → Option β} {as : List α} {bs : List β}
    (h : as.mapM f = some bs) : List.Forall₂ (fun a b => f a = some b) as bs := by
  induction as generalizing bs with
  | nil =>
    cases h
    exact .nil
  | cons a as ih =>
    simp only [List.mapM_cons, Option.bind_eq_bind, Option.bind_eq_some_iff, Option.pure_def,
      Option.some_inj] at h
    obtain ⟨b, hb, bs', hbs, rfl⟩ := h
    exact .cons hb (ih hbs)

theorem readNumeral_lt {base bound n m : ℕ} {cs : List Char} (hn : n < bound)
    (h : readNumeral base bound n cs = some m) : m < bound := by
  induction cs generalizing n with
  | nil =>
    cases h
    exact hn
  | cons c cs ih =>
    rw [readNumeral] at h
    split at h
    · exact ih hn h
    · split at h
      · cases h
      · simp only at h
        split at h
        next hdigit =>
          simp only [Bool.and_eq_true, decide_eq_true_eq] at hdigit
          exact ih hdigit.2 h
        next => cases h

/-- A number that is read off has at most the bits asked for. -/
theorem quantity?_lt {bits n : ℕ} {value : Json} (h : quantity? bits value = some n) :
    n < bitBound bits := by
  rw [quantity?.eq_def] at h
  split at h
  next s =>
    rw [numeral?.eq_def] at h
    have hzero := bitBound_pos bits
    split at h <;> exact readNumeral_lt hzero h
  next number =>
    split at h
    next hrange =>
      cases h
      omega
    next => cases h
  next => cases h

theorem showsLog_of_log? {value : Json} {log : Log} (h : log? value = some log) :
    ShowsLog value log := by
  simp only [log?, Option.bind_eq_bind, Option.bind_eq_some_iff, Option.ite_none_right_eq_some,
    Option.some_inj] at h
  obtain ⟨address, haddress, items, hitems, topics, htopics, data, hdata, -, rfl⟩ := h
  exact ⟨haddress, ⟨items, hitems, forall₂_of_mapM htopics⟩, hdata⟩

theorem shows_of_receipt? {value : Json} {receipt : Receipt} (h : receipt? value = some receipt) :
    Shows value receipt := by
  simp only [receipt?, Option.bind_eq_bind, Option.bind_eq_some_iff, Option.ite_none_right_eq_some,
    Option.some_inj] at h
  obtain ⟨_, -, success, hsuccess, _, -, items, hitems, logs, hlogs, _, -, hash, hhash, gasUsed,
    hgasUsed, _, -, _, -, -, rfl⟩ := h
  obtain ⟨member, -, hmember⟩ := Option.bind_eq_some_iff.mp hgasUsed
  have hlt : gasUsed < 2 ^ 64 := quantity?_lt hmember
  have hshown := (forall₂_of_mapM hlogs).imp fun _ _ => showsLog_of_log?
  refine ⟨hhash, hsuccess, ?_, items, hitems, hshown⟩
  rw [hgasUsed, UInt64.toNat_ofNat_of_lt' hlt]

/-! ### Polls in a row -/

def Poll.Fails (poll : Poll) : Prop := ∃ error, poll = .failed error

/-- Waiting is over with poll `k`. It finds the receipt, or it and the `maxErrors` polls before
it all fail. -/
def EndsAt (maxErrors : ℕ) (polls : ℕ → Poll) (k : ℕ) : Prop :=
  (∃ receipt, polls k = .found receipt) ∨
    maxErrors ≤ k ∧ ∀ i, k - maxErrors ≤ i → i ≤ k → (polls i).Fails

/-- How many polls have failed in a row right before poll `n`. -/
def streak (polls : ℕ → Poll) : ℕ → ℕ
  | 0 => 0
  | n + 1 =>
    match polls n with
    | .failed _ => streak polls n + 1
    | _ => 0

variable {maxErrors : ℕ} {polls : ℕ → Poll}

theorem streak_succ_of_fails {n : ℕ} (h : (polls n).Fails) :
    streak polls (n + 1) = streak polls n + 1 := by
  obtain ⟨error, h⟩ := h
  simp [streak, h]

theorem streak_succ_of_not_fails {n : ℕ} (h : ¬ (polls n).Fails) : streak polls (n + 1) = 0 := by
  rw [streak]
  split
  next error herror => exact absurd ⟨error, herror⟩ h
  next => rfl

theorem le_streak_iff {j n : ℕ} :
    j ≤ streak polls n ↔ j ≤ n ∧ ∀ i, n - j ≤ i → i < n → (polls i).Fails := by
  induction n generalizing j with
  | zero =>
    rw [streak]
    exact ⟨fun h => ⟨h, fun i _ hi => absurd hi (Nat.not_lt_zero i)⟩, And.left⟩
  | succ n ih =>
    obtain _ | j := j
    · exact iff_of_true (Nat.zero_le _) ⟨Nat.zero_le _, fun i _ _ => by omega⟩
    by_cases hn : (polls n).Fails
    · rw [streak_succ_of_fails hn, Nat.add_le_add_iff_right, ih, Nat.add_le_add_iff_right,
        Nat.add_sub_add_right]
      refine and_congr_right fun _ => forall_congr' fun i => forall_congr' fun _ => ?_
      constructor
      · intro h hi
        obtain hi | rfl := Nat.lt_succ_iff_lt_or_eq.mp hi
        · exact h hi
        · exact hn
      · exact fun h hi => h (Nat.lt_succ_of_lt hi)
    · rw [streak_succ_of_not_fails hn]
      refine iff_of_false (by omega) ?_
      rintro ⟨hj, h⟩
      exact hn (h n (by omega) n.lt_succ_self)

theorem endsAt_iff {k : ℕ} : EndsAt maxErrors polls k ↔
    (∃ receipt, polls k = .found receipt) ∨ (polls k).Fails ∧ maxErrors ≤ streak polls k := by
  refine or_congr_right ?_
  rw [le_streak_iff]
  constructor
  · rintro ⟨hk, h⟩
    exact ⟨h k (by omega) le_rfl, hk, fun i hi hlt => h i hi hlt.le⟩
  · rintro ⟨hfails, hk, h⟩
    refine ⟨hk, fun i hi hle => ?_⟩
    obtain hlt | rfl := hle.lt_or_eq
    · exact h i hi hlt
    · exact hfails

/-- While waiting is not over, no more polls in a row have failed than are put up with. -/
theorem streak_le {n : ℕ} (h : ∀ i < n, ¬ EndsAt maxErrors polls i) :
    streak polls n ≤ maxErrors := by
  obtain _ | n := n
  · exact Nat.zero_le _
  by_cases hn : (polls n).Fails
  · have hlt : ¬ maxErrors ≤ streak polls n :=
      fun hle => h n n.lt_succ_self (endsAt_iff.mpr (.inr ⟨hn, hle⟩))
    rw [streak_succ_of_fails hn]
    omega
  · rw [streak_succ_of_not_fails hn]
    exact Nat.zero_le _

theorem advance_of_not_endsAt {n : ℕ} (h : ¬ EndsAt maxErrors polls n) :
    (polls n).advance maxErrors (streak polls n) = .waiting (streak polls (n + 1)) := by
  rw [endsAt_iff] at h
  cases hn : polls n with
  | found receipt => exact absurd (.inl ⟨receipt, hn⟩) h
  | pending => simp [Poll.advance, streak, hn]
  | failed error =>
    have hlt : streak polls n < maxErrors :=
      not_le.mp fun hle => h (.inr ⟨⟨error, hn⟩, hle⟩)
    simp [Poll.advance, streak, hn, hlt]

/-! ### Waiting, poll by poll -/

def inOrder (responses : ℕ → Response) (act : Act) (n : ℕ) : act.Reply × ℕ :=
  match act with
  | .send _ => (responses n, n + 1)
  | .sign _ => (.error (.refused "nothing is signed"), n)

variable {hash : Word} {responses : ℕ → Response}

def pollsOf (hash : Word) (responses : ℕ → Response) (n : ℕ) : Poll :=
  .ofResponse hash (responses n)

/-- What happens at poll `n` when waiting goes on after it. -/
def passed (hash : Word) (responses : ℕ → Response) (n : ℕ) : List Moment :=
  let polls := pollsOf hash responses
  sent (.awaitReceipt hash) (responses n) ::
    (((polls n).event? hash (streak polls (n + 1))).toList.map .reported)

theorem run_of_not_endsAt {n : ℕ} (h : ¬ EndsAt maxErrors (pollsOf hash responses) n) (rest : ℕ) :
    (awaitReceipt maxErrors hash (rest + 1) (streak (pollsOf hash responses) n)).run
        (inOrder responses) n =
      let o := (awaitReceipt maxErrors hash rest (streak (pollsOf hash responses) (n + 1))).run
        (inOrder responses) (n + 1)
      { o with moments := passed hash responses n ++ o.moments } := by
  have hadvance : (Poll.ofResponse hash (responses n)).advance maxErrors _ = _ :=
    advance_of_not_endsAt h
  simp only [awaitReceipt, run, inOrder, hadvance, passed, pollsOf]
  cases (Poll.ofResponse hash (responses n)).event? hash _ <;> rfl

theorem run_of_found {n errors rest : ℕ} {receipt : Receipt}
    (h : pollsOf hash responses n = .found receipt) :
    (awaitReceipt maxErrors hash (rest + 1) errors).run (inOrder responses) n =
      ⟨[sent (.awaitReceipt hash) (responses n)], some (.ok receipt), n + 1⟩ := by
  rw [pollsOf] at h
  simp [awaitReceipt, run, inOrder, h, Poll.advance]

theorem run_of_failed {n errors rest : ℕ} {error : ClientError}
    (h : pollsOf hash responses n = .failed error) (herrors : maxErrors ≤ errors) :
    (awaitReceipt maxErrors hash (rest + 1) errors).run (inOrder responses) n =
      ⟨[sent (.awaitReceipt hash) (responses n)], some (.error error), n + 1⟩ := by
  rw [pollsOf] at h
  simp [awaitReceipt, run, inOrder, h, Poll.advance, herrors.not_gt]

/-- As long as waiting is not over it goes on with the number of failed polls right before. -/
theorem run_polls {n : ℕ} (h : ∀ i < n, ¬ EndsAt maxErrors (pollsOf hash responses) i) (rest : ℕ) :
    (awaitReceipt maxErrors hash (n + rest) 0).run (inOrder responses) 0 =
      let o := (awaitReceipt maxErrors hash rest (streak (pollsOf hash responses) n)).run
        (inOrder responses) n
      { o with moments := (List.range n).flatMap (passed hash responses) ++ o.moments } := by
  induction n generalizing rest with
  | zero => simp [streak]
  | succ n ih =>
    have hstep := run_of_not_endsAt (h n n.lt_succ_self) rest
    rw [Nat.add_assoc, Nat.add_comm 1 rest, ih (fun i hi => h i (Nat.lt_succ_of_lt hi)), hstep,
      List.range_succ, List.flatMap_append, List.flatMap_singleton]
    simp only [List.append_assoc]

/-! ### What waiting comes to -/

/-- The warning that is given for poll `n` when waiting goes on after it, if one is. -/
def warning? (hash : Word) (polls : ℕ → Poll) (n : ℕ) : Option Event :=
  match polls n with
  | .failed error => some (.pollFailed hash error (streak polls (n + 1)))
  | _ => none

structure Waited {σ : Type} (hash : Word) (responses : ℕ → Response) (k : ℕ)
    (o : Outcome Act.Reply σ (Except ClientError Receipt)) : Prop where
  /-- The receipt is asked for in every poll up to that one, and nothing else is. -/
  requests : o.actions = List.replicate (k + 1) (.send (.ofQuery (.awaitReceipt hash)))
  /-- A receipt is handed on with all that the node says of it. -/
  received (receipt : Receipt) : pollsOf hash responses k = .found receipt →
    o.result = .ok receipt ∧ ∃ value, responses k = .result value ∧ Shows value receipt
  /-- An error is handed on as it is. -/
  failed (error : ClientError) : pollsOf hash responses k = .failed error →
    o.result = .error error ∧ (responses k).answer? (.awaitReceipt hash) = .error error
  /-- There is a warning for each poll before that one that fails, and no other. -/
  warnings : o.events.filter (·.message = "Receipt poll failed, retrying") =
    (List.range k).filterMap (warning? hash (pollsOf hash responses))

theorem answer?_eq_ok_iff {q : Query} {response : Response} {a : q.Answer} :
    response.answer? q = .ok a ↔
      ∃ value, response = .result value ∧ Rpc.answer? q value = some a := by
  rw [Response.answer?, Except.bind_eq_ok_iff]
  refine exists_congr fun value => and_congr ?_ ?_
  · cases response <;> simp [Response.result?]
  · cases Rpc.answer? q value <;> simp [pure, Except.pure]

/-- A poll finds the receipt that a node has written. -/
theorem ofResponse_receiptJson (hash : Word) (receipt : Receipt) :
    Poll.ofResponse hash (.result (receiptJson receipt)) = .found receipt := by
  have hanswer : (Response.result (receiptJson receipt)).answer? (.awaitReceipt hash) =
      .ok receipt := answer?_eq_ok_iff.mpr ⟨_, rfl, receipt?_receiptJson receipt⟩
  rw [receiptJson] at hanswer ⊢
  rw [Poll.ofResponse, hanswer]
  nofun

theorem answer?_of_found {n : ℕ} {receipt : Receipt}
    (h : pollsOf hash responses n = .found receipt) :
    ∃ value, responses n = .result value ∧ receipt? value = some receipt := by
  rw [pollsOf, Poll.ofResponse.eq_def] at h
  split at h
  · cases h
  · split at h
    next hanswer =>
      cases h
      exact answer?_eq_ok_iff.mp hanswer
    next => cases h

theorem answer?_of_failed {n : ℕ} {error : ClientError}
    (h : pollsOf hash responses n = .failed error) :
    (responses n).answer? (.awaitReceipt hash) = .error error := by
  rw [pollsOf, Poll.ofResponse.eq_def] at h
  split at h
  · cases h
  · split at h
    · cases h
    next herror =>
      cases h
      exact herror

@[simp] theorem calls_passed (n : ℕ) :
    calls (passed hash responses n) = [⟨.send (.ofQuery (.awaitReceipt hash)), responses n⟩] := by
  rw [passed]
  cases (pollsOf hash responses n).event? hash _ <;> rfl

@[simp] theorem events_passed (n : ℕ) : events (passed hash responses n) =
    ((pollsOf hash responses n).event? hash (streak (pollsOf hash responses) (n + 1))).toList := by
  rw [passed]
  cases (pollsOf hash responses n).event? hash _ <;> rfl

theorem calls_flatMap_passed (ns : List ℕ) : calls (ns.flatMap (passed hash responses)) =
    ns.map fun n => ⟨.send (.ofQuery (.awaitReceipt hash)), responses n⟩ := by
  induction ns with
  | nil => rfl
  | cons n ns ih => rw [List.flatMap_cons, calls_append, calls_passed, ih]; rfl

theorem warnings_flatMap_passed (ns : List ℕ) :
    (events (ns.flatMap (passed hash responses))).filter
        (·.message = "Receipt poll failed, retrying") =
      ns.filterMap (warning? hash (pollsOf hash responses)) := by
  induction ns with
  | nil => rfl
  | cons n ns ih =>
    rw [List.flatMap_cons, events_append, events_passed, List.filter_append, ih,
      List.filterMap_cons]
    cases h : pollsOf hash responses n <;> simp [warning?, h, Poll.event?, Event.message]

/-- Waiting comes to what the last poll says, and before it just to the polls that are passed. -/
theorem waited_of_run {k : ℕ} {o : Outcome Act.Reply ℕ (Except ClientError Receipt)}
    (hmoments : o.moments =
      (List.range k).flatMap (passed hash responses) ++ [sent (.awaitReceipt hash) (responses k)])
    (hresult : match pollsOf hash responses k with
      | .found receipt => o.result = .ok receipt
      | .pending => True
      | .failed error => o.result = .error error) :
    Waited hash responses k o := by
  refine ⟨?_, fun receipt h => ?_, fun error h => ?_, ?_⟩
  · simp [Outcome.actions_eq, hmoments, calls_flatMap_passed, calls, Function.comp_def,
      List.map_const', List.replicate_succ']
  · obtain ⟨value, hvalue, hreceipt⟩ := answer?_of_found h
    rw [h] at hresult
    exact ⟨hresult, value, hvalue, shows_of_receipt? hreceipt⟩
  · rw [h] at hresult
    exact ⟨hresult, answer?_of_failed h⟩
  · simp [Outcome.events_eq, hmoments, events, warnings_flatMap_passed]

theorem run_ask {client : Client} {n : ℕ} {result : Except ClientError Receipt}
    (h : ((awaitReceipt client.maxPollErrors hash client.patience 0).run
      (inOrder responses) n).result = some result) :
    (client.ask (.awaitReceipt hash)).run (inOrder responses) n =
      let o := (awaitReceipt client.maxPollErrors hash client.patience 0).run (inOrder responses) n
      ⟨o.moments, result, o.state⟩ := by
  refine (run_bind _ (awaitReceipt _ hash _ 0) _ n).trans ?_
  simp only [h, run, pure, List.append_nil]

/-- A client that is patient enough waits up to the first poll at which waiting is over. -/
theorem waited_of_isLeast {k patience : ℕ}
    (h : IsLeast {k | EndsAt maxErrors (pollsOf hash responses) k} k) (hpatience : k < patience) :
    Waited hash responses k
      ((Client.ask ⟨maxErrors, patience⟩ (.awaitReceipt hash)).run (inOrder responses) 0) := by
  have hbefore (i : ℕ) (hi : i < k) : ¬ EndsAt maxErrors (pollsOf hash responses) i :=
    fun hends => hi.not_ge (h.2 hends)
  obtain ⟨rest, rfl⟩ := Nat.exists_eq_add_of_lt hpatience
  have hrun := run_polls hbefore (rest + 1)
  obtain ⟨receipt, hfound⟩ | ⟨⟨error, hfailed⟩, hstreak⟩ := endsAt_iff.mp h.1
  · rw [run_of_found hfound, ← Nat.add_assoc] at hrun
    rw [run_ask (congrArg Outcome.result hrun)]
    refine waited_of_run (congrArg Outcome.moments hrun) ?_
    rw [hfound]
  · rw [run_of_failed hfailed hstreak, ← Nat.add_assoc] at hrun
    rw [run_ask (congrArg Outcome.result hrun)]
    refine waited_of_run (congrArg Outcome.moments hrun) ?_
    rw [hfailed]

/-- However the polls for a receipt are answered, waiting for it is over at the first poll that
finds it or that is the last of one more failed polls in a row than are put up with, and comes to
what that poll says. Without such a poll it goes on for as many polls as there are. All the while
it keeps count of the failed polls right before, which are never more than are put up with. -/
theorem receipt_awaited (maxErrors : ℕ) (hash : Word) (responses : ℕ → Response) :
    let polls := pollsOf hash responses
    (∀ k, IsLeast {k | EndsAt maxErrors polls k} k → ∀ patience, k < patience →
      Waited hash responses k
        ((Client.ask ⟨maxErrors, patience⟩ (.awaitReceipt hash)).run (inOrder responses) 0)) ∧
    ((∀ k, ¬ EndsAt maxErrors polls k) → ∀ patience,
      let o := (awaitReceipt maxErrors hash patience 0).run (inOrder responses) 0
      o.result = none ∧
        o.actions = List.replicate patience (.send (.ofQuery (.awaitReceipt hash)))) ∧
    ∀ n, (∀ i < n, ¬ EndsAt maxErrors polls i) → streak polls n ≤ maxErrors ∧ ∀ rest,
      (awaitReceipt maxErrors hash (n + rest) 0).run (inOrder responses) 0 =
        let o := (awaitReceipt maxErrors hash rest (streak polls n)).run (inOrder responses) n
        { o with moments := (List.range n).flatMap (passed hash responses) ++ o.moments } := by
  intro polls
  refine ⟨fun k h patience hpatience => waited_of_isLeast h hpatience, fun h patience => ?_,
    fun n h => ⟨streak_le h, run_polls h⟩⟩
  have hrun := run_polls (n := patience) (fun i _ => h i) 0
  rw [Nat.add_zero] at hrun
  simp [hrun, awaitReceipt, run, Outcome.actions_eq, calls_flatMap_passed, Function.comp_def,
    List.map_const']

/-- Responses that all get lost, but for the third one, which has no receipt yet. -/
def interrupted (n : ℕ) : Response := if n = 2 then .result .null else .lost "timed out"

theorem pollsOf_interrupted (hash : Word) (n : ℕ) : pollsOf hash interrupted n =
    if n = 2 then .pending else .failed (.transport "timed out") := by
  rw [pollsOf, interrupted]
  split <;> rfl

theorem isLeast_interrupted (hash : Word) :
    IsLeast {k | EndsAt 2 (pollsOf hash interrupted) k} 5 := by
  constructor
  · refine .inr ⟨by omega, fun i hi _ => ⟨.transport "timed out", ?_⟩⟩
    rw [pollsOf_interrupted, if_neg (by omega)]
  · rintro k (⟨receipt, hfound⟩ | ⟨hk, h⟩)
    · rw [pollsOf_interrupted] at hfound
      split at hfound <;> cases hfound
    · by_contra hlt
      obtain ⟨error, hfailed⟩ := h 2 (by omega) (by omega)
      cases (pollsOf_interrupted hash 2).symm.trans hfailed

def delivered : Receipt where
  hash := Word.ofUInt256 7
  success := true
  gasUsed := 43000
  logs := [
    { address := .ofNat 20 0xc0de, topics := [], data := [1, 2, 3] },
    { address := .ofNat 20 0xcafe, topics := [Word.ofUInt256 1, Word.ofUInt256 2], data := [] }]

/-- The first response has no receipt yet, the next two get lost, and the fourth has it. -/
def delayed : ℕ → Response
  | 0 => .result .null
  | 1 | 2 => .lost "timed out"
  | _ => .result (receiptJson delivered)

theorem pollsOf_delayed (hash : Word) : pollsOf hash delayed 3 = .found delivered := by
  have hresponse : delayed 3 = .result (receiptJson delivered) := rfl
  rw [pollsOf, hresponse, ofResponse_receiptJson]

theorem isLeast_delayed (hash : Word) : IsLeast {k | EndsAt 2 (pollsOf hash delayed) k} 3 := by
  constructor
  · exact .inl ⟨delivered, pollsOf_delayed hash⟩
  · rintro k (⟨receipt, hfound⟩ | ⟨hk, h⟩)
    · by_contra hlt
      obtain rfl | rfl | rfl : k = 0 ∨ k = 1 ∨ k = 2 := by omega
      all_goals cases hfound
    · by_contra hlt
      obtain ⟨error, hfailed⟩ := h 0 (by omega) (by omega)
      cases hfailed

/-- Where two failed polls in a row are put up with, two more before a poll that finds nothing do
not count, and after two of them the receipt still arrives, with its events. -/
theorem receipt_awaited_interrupted :
    let hash := Word.ofUInt256 7
    let o := (Client.ask ⟨2, 6⟩ (.awaitReceipt hash)).run (inOrder interrupted) 0
    let o' := (Client.ask ⟨2, 6⟩ (.awaitReceipt hash)).run (inOrder delayed) 0
    (Waited hash interrupted 5 o ∧ o.result = .error (.transport "timed out") ∧
      (o.events.filter (·.message = "Receipt poll failed, retrying")).length = 4) ∧
    Waited hash delayed 3 o' ∧ o'.result = .ok delivered ∧
      (o'.events.filter (·.message = "Receipt poll failed, retrying")).length = 2 := by
  intro hash o o'
  have hinterrupted : Waited hash interrupted 5 o :=
    (receipt_awaited 2 hash interrupted).1 5 (isLeast_interrupted hash) 6 (by omega)
  have hdelayed : Waited hash delayed 3 o' :=
    (receipt_awaited 2 hash delayed).1 3 (isLeast_delayed hash) 6 (by omega)
  exact ⟨⟨hinterrupted, (hinterrupted.failed _ rfl).1, congrArg List.length hinterrupted.warnings⟩,
    hdelayed, (hdelayed.received _ (pollsOf_delayed hash)).1,
    congrArg List.length hdelayed.warnings⟩

end Sandwich.Rpc
