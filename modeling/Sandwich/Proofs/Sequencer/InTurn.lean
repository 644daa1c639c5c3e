import Mathlib.Data.List.Forall2
import Sandwich.Proofs.Sequencer.Calls

/-! Dispatches that go out one after another. Each one starts when the one before
it has been confirmed, and the first that fails is the last. So what the signer is
asked for goes along the plan, no nonce is read while a transaction is on its way,
and there is a receipt for each planned transaction if all goes well. -/

namespace Sandwich

open Program

/-! ### What calls come to -/

@[simp] def Act.request? : Act → Option Transaction.Request
  | .sign request => some request
  | .query _ => none

@[simp] def Act.readsNonce : Act → Bool
  | .query (.transactionCount _) => true
  | _ => false

@[simp] def confirmation? : Call Act.Reply → Option Receipt
  | ⟨.query (.awaitReceipt _), .ok receipt⟩ => if receipt.success then some receipt else none
  | _ => none

section

variable {cs ds : List (Call Act.Reply)}

def requests (cs : List (Call Act.Reply)) : List Transaction.Request :=
  cs.filterMap fun c => c.1.request?

def confirmations (cs : List (Call Act.Reply)) : List Receipt := cs.filterMap confirmation?

def nonceReads (cs : List (Call Act.Reply)) : Nat := cs.countP fun c => c.1.readsNonce

@[simp] theorem requests_nil : requests [] = [] := rfl

@[simp] theorem confirmations_nil : confirmations [] = [] := rfl

@[simp] theorem nonceReads_nil : nonceReads [] = 0 := rfl

@[simp] theorem requests_cons {c : Call Act.Reply} :
    requests (c :: cs) = c.1.request?.toList ++ requests cs := by
  rw [requests, List.filterMap_cons]
  cases c.1.request? <;> rfl

@[simp] theorem confirmations_cons {c : Call Act.Reply} :
    confirmations (c :: cs) = (confirmation? c).toList ++ confirmations cs := by
  rw [confirmations, List.filterMap_cons]
  cases confirmation? c <;> rfl

@[simp] theorem nonceReads_cons {c : Call Act.Reply} :
    nonceReads (c :: cs) = nonceReads cs + if c.1.readsNonce then 1 else 0 :=
  List.countP_cons

@[simp] theorem requests_append : requests (cs ++ ds) = requests cs ++ requests ds :=
  List.filterMap_append

@[simp] theorem confirmations_append :
    confirmations (cs ++ ds) = confirmations cs ++ confirmations ds :=
  List.filterMap_append

@[simp] theorem nonceReads_append : nonceReads (cs ++ ds) = nonceReads cs + nonceReads ds :=
  List.countP_append

theorem requests_eq_filterMap_map : requests cs = (cs.map (·.1)).filterMap Act.request? := by
  rw [List.filterMap_map]
  rfl

theorem nonceReads_eq_countP_map : nonceReads cs = (cs.map (·.1)).countP Act.readsNonce := by
  rw [List.countP_map]
  rfl

theorem mem_requests_iff {ms : List Operation.Moment} {request : Transaction.Request} :
    request ∈ requests (calls ms) ↔ ∃ reply, Operation.signed request reply ∈ ms := by
  induction ms with
  | nil => simp [calls]
  | cons m ms ih =>
    cases m with
    | reported event => simpa [calls] using ih
    | acted act reply =>
      cases act with
      | query q => simpa [calls] using ih
      | sign signed =>
        have hhead : (∃ reply', Operation.signed request reply' = .acted (.sign signed) reply) ↔
            request = signed := by
          constructor
          · rintro ⟨reply', h⟩
            cases h
            rfl
          · rintro rfl
            exact ⟨reply, rfl⟩
        simp only [calls, requests_cons, Act.request?, Option.toList_some, List.singleton_append,
          List.mem_cons, ih, exists_or, hhead]

/-- Whenever a nonce is asked for, all transactions with earlier nonces are confirmed. -/
def Paced (cs : List (Call Act.Reply)) : Prop :=
  ∀ n c, cs[n]? = some c → c.1.readsNonce = true →
    nonceReads (cs.take n) = (confirmations (cs.take n)).length

theorem paced_of_nonceReads_eq_zero (h : nonceReads cs = 0) : Paced cs := by
  intro n c hc hread
  exact absurd hread (List.countP_eq_zero.mp h c (List.mem_of_getElem? hc))

/-- A nonce that is asked for before anything else follows no other. -/
theorem paced_cons {c : Call Act.Reply} (h : nonceReads cs = 0) : Paced (c :: cs) := by
  rintro (_ | n) c' hc hread
  · rfl
  · rw [List.getElem?_cons_succ] at hc
    exact absurd hread (List.countP_eq_zero.mp h c' (List.mem_of_getElem? hc))

/-- Calls that leave no transaction unconfirmed can be followed by others. -/
theorem Paced.append (hcs : Paced cs) (hsettled : nonceReads cs = (confirmations cs).length)
    (hds : Paced ds) : Paced (cs ++ ds) := by
  intro n c hc hread
  rw [List.take_append]
  by_cases hn : n < cs.length
  · rw [List.getElem?_append_left hn] at hc
    rw [Nat.sub_eq_zero_of_le (Nat.le_of_lt hn), List.take_zero, List.append_nil]
    exact hcs n c hc hread
  · have hn : cs.length ≤ n := Nat.le_of_not_lt hn
    rw [List.getElem?_append_right hn] at hc
    rw [List.take_of_length_le hn, nonceReads_append, confirmations_append, List.length_append,
      hsettled, hds _ c hc hread]

/-- Calls that ask for no signature and no nonce, and confirm nothing. -/
structure Idle (cs : List (Call Act.Reply)) : Prop where
  requests : requests cs = []
  nonceReads : nonceReads cs = 0
  confirmations : confirmations cs = []

theorem Idle.paced_append (h : Idle cs) (hds : Paced ds) : Paced (cs ++ ds) := by
  refine (paced_of_nonceReads_eq_zero h.nonceReads).append ?_ hds
  rw [h.nonceReads, h.confirmations, List.length_nil]

end

namespace Dispatch

variable {d : Dispatch} {s : Sequencer} {a : Answers} {ms : List Operation.Moment}

def Asks (s : Sequencer) (d : Dispatch) (request : Transaction.Request) : Prop :=
  ∃ nonce tip gasPrice fees, d.policy.settle tip gasPrice = .ok fees ∧
    request = d.request s nonce fees

/-! ### The calls of one dispatch -/

theorem idle_reads (policy : FeePolicy) (tip gasPrice : UInt128) :
    Idle (calls (policy.reads tip gasPrice)) := by
  rw [FeePolicy.reads, FeePolicy.tipReads, FeePolicy.priceReads]
  split <;> split <;> exact ⟨rfl, rfl, rfl⟩

theorem requests_plan (d : Dispatch) (s : Sequencer) (a : Answers) :
    requests (d.plan s a) = [d.request s a.nonce a.fees] := by
  simp [plan, (idle_reads _ _ _).requests]

theorem nonceReads_plan (d : Dispatch) (s : Sequencer) (a : Answers) :
    nonceReads (d.plan s a) = 1 := by
  simp [plan, (idle_reads _ _ _).nonceReads]

theorem confirmations_plan (d : Dispatch) (s : Sequencer) {a : Answers}
    (h : a.receipt.success = true) : confirmations (d.plan s a) = [a.receipt] := by
  simp [plan, (idle_reads _ _ _).confirmations, h]

/-- The nonce is read before anything else, and not again. -/
theorem paced_of_course {result : Except Failure Receipt} (h : d.Course s a ms result) :
    Paced (calls ms) := by
  have hactions := (follows_of_course h).1
  have hle := hactions.sublist.countP_le (p := Act.readsNonce)
  rw [← nonceReads_eq_countP_map, ← nonceReads_eq_countP_map, nonceReads_plan] at hle
  cases hcalls : calls ms with
  | nil => exact paced_of_nonceReads_eq_zero rfl
  | cons c cs =>
    rw [hcalls, plan, List.map_cons, List.map_cons, List.cons_prefix_cons] at hactions
    rw [hcalls, nonceReads_cons, hactions.1, Act.readsNonce, if_pos rfl] at hle
    exact paced_cons (by omega)

/-- The signer is asked once at most, and for what the dispatch says. -/
theorem requests_of_course {result : Except Failure Receipt} (h : d.Course s a ms result) :
    requests (calls ms) = [] ∨ ∃ request, requests (calls ms) = [request] ∧ Asks s d request := by
  have hprefix := (follows_of_course h).1.filterMap Act.request?
  rw [← requests_eq_filterMap_map, ← requests_eq_filterMap_map, requests_plan,
    List.prefix_cons_iff] at hprefix
  obtain hnone | ⟨rest, hone, hrest⟩ := hprefix
  · exact .inl hnone
  · have hmem : d.request s a.nonce a.fees ∈ requests (calls ms) := by simp [hone]
    obtain ⟨reply, hsigned⟩ := mem_requests_iff.mp hmem
    have hsettled := (settled_of_signed h hsigned).2
    rw [List.prefix_nil.mp hrest] at hone
    exact .inr ⟨_, hone, a.nonce, a.tip, a.gasPrice, a.fees, hsettled, rfl⟩

/-- A dispatch that is confirmed has asked for one signature and one nonce. -/
theorem calls_of_confirmed {receipt : Receipt} (h : d.Course s a ms (.ok receipt)) :
    nonceReads (calls ms) = 1 ∧ confirmations (calls ms) = [receipt] ∧
      ∃ request, requests (calls ms) = [request] ∧ Asks s d request := by
  cases h with
  | confirmed h hsuccess =>
    have hcalls : calls (d.sent s a ++ [Operation.asked (.awaitReceipt a.hash) (.ok a.receipt),
        .reported (.confirmed a.hash a.receipt.gasUsed)]) = d.plan s a := by
      rw [plan_eq_sent, calls_append]
      rfl
    rw [hcalls]
    exact ⟨nonceReads_plan d s a, confirmations_plan d s hsuccess, _, requests_plan d s a,
      a.nonce, a.tip, a.gasPrice, a.fees, h, rfl⟩

/-! ### One dispatch after another -/

/-- The calls and the result of dispatches each of which waits for the one before it. -/
inductive InTurn (s : Sequencer) :
    List Dispatch → List (Call Act.Reply) → Except Failure (List Receipt) → Prop
  | nil : InTurn s [] [] (.ok [])
  | stopped {d : Dispatch} {a : Answers} {ms : List Operation.Moment} {failure : Failure}
      (ds : List Dispatch) (h : d.Course s a ms (.error failure)) :
      InTurn s (d :: ds) (calls ms) (.error failure)
  | confirmed {d : Dispatch} {a : Answers} {ms : List Operation.Moment} {receipt : Receipt}
      {ds : List Dispatch} {cs : List (Call Act.Reply)} {result : Except Failure (List Receipt)}
      (h : d.Course s a ms (.ok receipt)) (hrest : InTurn s ds cs result) :
      InTurn s (d :: ds) (calls ms ++ cs) (result.map (receipt :: ·))

variable {ds : List Dispatch} {cs : List (Call Act.Reply)}

/-- No nonce is read while a transaction is on its way. -/
theorem InTurn.paced {result : Except Failure (List Receipt)} (h : InTurn s ds cs result) :
    Paced cs := by
  induction h with
  | nil => exact paced_of_nonceReads_eq_zero rfl
  | stopped _ h => exact paced_of_course h
  | confirmed h _ ih =>
    obtain ⟨hcounted, hconfirmed, -⟩ := calls_of_confirmed h
    exact (paced_of_course h).append (by rw [hcounted, hconfirmed]; rfl) ih

theorem InTurn.requested {result : Except Failure (List Receipt)} (h : InTurn s ds cs result) :
    ∃ sent, sent <+: ds ∧ List.Forall₂ (Asks s) sent (requests cs) := by
  induction h with
  | nil => exact ⟨[], List.nil_prefix, .nil⟩
  | @stopped d _ _ _ ds h =>
    obtain hnone | ⟨request, hone, hasks⟩ := requests_of_course h
    · exact ⟨[], List.nil_prefix, by rw [hnone]; exact .nil⟩
    · exact ⟨[d], List.prefix_append [d] ds, by rw [hone]; exact .cons hasks .nil⟩
  | @confirmed d _ _ _ _ _ _ h _ ih =>
    obtain ⟨-, -, request, hone, hasks⟩ := calls_of_confirmed h
    obtain ⟨sent, hprefix, hrest⟩ := ih
    refine ⟨d :: sent, List.cons_prefix_cons.mpr ⟨rfl, hprefix⟩, ?_⟩
    rw [requests_append, hone]
    exact .cons hasks hrest

theorem InTurn.completed {receipts : List Receipt} (h : InTurn s ds cs (.ok receipts)) :
    List.Forall₂ (Asks s) ds (requests cs) ∧ confirmations cs = receipts ∧
      receipts.length = ds.length := by
  generalize hresult : Except.ok receipts = result at h
  induction h generalizing receipts with
  | nil =>
    cases hresult
    exact ⟨.nil, rfl, rfl⟩
  | stopped _ _ => cases hresult
  | confirmed h _ ih =>
    obtain ⟨rest, hrest, rfl⟩ := Except.map_eq_ok_iff.mp hresult.symm
    obtain ⟨-, hconfirmed, request, hone, hasks⟩ := calls_of_confirmed h
    obtain ⟨hrequests, hconfirmations, hlength⟩ := ih hrest.symm
    rw [requests_append, hone, confirmations_append, hconfirmed, hconfirmations]
    exact ⟨.cons hasks hrequests, rfl, congrArg (· + 1) hlength⟩

end Dispatch

end Sandwich
