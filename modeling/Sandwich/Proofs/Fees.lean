import Sandwich.Fees
import Sandwich.Proofs.Operation

/-! How the fees of a transaction come about. The node is asked for what the
policy leaves open and for nothing else, the tip before the gas price, and the
fees are those that the policy settles on given the answers. -/

namespace Sandwich.FeePolicy

open Operation

def leavesTip : FeePolicy → Bool
  | dynamic none _ => true
  | _ => false

def leavesPrice : FeePolicy → Bool
  | legacy none => true
  | dynamic _ none => true
  | _ => false

def tipReads (policy : FeePolicy) (tip : UInt128) : List Moment :=
  if policy.leavesTip then [asked .maxPriorityFee (.ok tip)] else []

def priceReads (policy : FeePolicy) (gasPrice : UInt128) : List Moment :=
  if policy.leavesPrice then [asked .gasPrice (.ok gasPrice)] else []

def reads (policy : FeePolicy) (tip gasPrice : UInt128) : List Moment :=
  policy.tipReads tip ++ policy.priceReads gasPrice

/-- What the policy comes to when the node suggests `tip` and `gasPrice`. -/
def settle : FeePolicy → (tip gasPrice : UInt128) → Except Failure Fees
  | legacy given, _, gasPrice => .ok (.legacy (given.getD gasPrice))
  | dynamic given none, tip, gasPrice =>
    .ok (.dynamic (given.getD tip) (defaultCap gasPrice (given.getD tip)))
  | dynamic given (some cap), tip, _ =>
    if cap.toNat < (given.getD tip).toNat then .error (.invalidFees cap (given.getD tip))
    else .ok (.dynamic (given.getD tip) cap)

/-- The ways in which the fees can be settled, when the node would suggest `tip` and `gasPrice`. -/
inductive Settlement (policy : FeePolicy) (tip gasPrice : UInt128) :
    List Moment → Except Failure Fees → Prop
  | settled : Settlement policy tip gasPrice (policy.reads tip gasPrice)
      (policy.settle tip gasPrice)
  | tipUnread (e : ClientError) (h : policy.leavesTip = true) :
      Settlement policy tip gasPrice [asked .maxPriorityFee (.error e)]
        (.error (.read .priorityFee e))
  | priceUnread (e : ClientError) (h : policy.leavesPrice = true) :
      Settlement policy tip gasPrice (policy.tipReads tip ++ [asked .gasPrice (.error e)])
        (.error (.read .gasPrice e))

theorem Settlement.eq_of_ok {policy : FeePolicy} {tip gasPrice : UInt128} {ms : List Moment}
    {fees : Fees} (h : policy.Settlement tip gasPrice ms (.ok fees)) :
    policy.settle tip gasPrice = .ok fees ∧ ms = policy.reads tip gasPrice := by
  generalize hresult : Except.ok fees = result at h
  cases h with
  | settled => exact ⟨rfl, rfl⟩
  | tipUnread e _ => cases hresult
  | priceUnread e _ => cases hresult

@[simp] theorem mem_tipReads_iff {policy : FeePolicy} {tip : UInt128} {m : Moment} :
    m ∈ policy.tipReads tip ↔ policy.leavesTip = true ∧ m = asked .maxPriorityFee (.ok tip) := by
  rw [tipReads]
  cases policy.leavesTip <;> simp

@[simp] theorem mem_priceReads_iff {policy : FeePolicy} {gasPrice : UInt128} {m : Moment} :
    m ∈ policy.priceReads gasPrice ↔
      policy.leavesPrice = true ∧ m = asked .gasPrice (.ok gasPrice) := by
  rw [priceReads]
  cases policy.leavesPrice <;> simp

@[simp] theorem mem_reads_iff {policy : FeePolicy} {tip gasPrice : UInt128} {m : Moment} :
    m ∈ policy.reads tip gasPrice ↔
      policy.leavesTip = true ∧ m = asked .maxPriorityFee (.ok tip) ∨
        policy.leavesPrice = true ∧ m = asked .gasPrice (.ok gasPrice) := by
  rw [reads, List.mem_append, mem_tipReads_iff, mem_priceReads_iff]

theorem Settlement.eq_of_mem {policy : FeePolicy} {tip gasPrice : UInt128} {ms : List Moment}
    {result : Except Failure Fees} (h : policy.Settlement tip gasPrice ms result) {m : Moment}
    (hm : m ∈ ms) :
    (∃ reply, m = asked .maxPriorityFee reply) ∨ ∃ reply, m = asked .gasPrice reply := by
  cases h with
  | settled =>
    obtain ⟨-, rfl⟩ | ⟨-, rfl⟩ := mem_reads_iff.mp hm
    · exact .inl ⟨_, rfl⟩
    · exact .inr ⟨_, rfl⟩
  | tipUnread e _ => exact .inl ⟨_, List.mem_singleton.mp hm⟩
  | priceUnread e _ =>
    obtain hm | hm := List.mem_append.mp hm
    · exact .inl ⟨_, (mem_tipReads_iff.mp hm).2⟩
    · exact .inr ⟨_, List.mem_singleton.mp hm⟩

/-- The only thing that can be wrong with fees, once all is read, is a cap below the tip. -/
theorem exists_of_settle_eq_error {policy : FeePolicy} {tip gasPrice : UInt128} {failure : Failure}
    (h : policy.settle tip gasPrice = .error failure) :
    ∃ cap least, failure = .invalidFees cap least := by
  match policy with
  | legacy _ => cases h
  | dynamic given none => cases h
  | dynamic given (some cap) =>
    rw [settle] at h
    split at h
    · cases h
      exact ⟨cap, given.getD tip, rfl⟩
    · cases h

/-- When the fees cannot be settled, the failure says so. -/
theorem Settlement.exists_of_error {policy : FeePolicy} {tip gasPrice : UInt128}
    {ms : List Moment} {failure : Failure}
    (h : policy.Settlement tip gasPrice ms (.error failure)) :
    (∃ step e, failure = .read step e) ∨ ∃ cap least, failure = .invalidFees cap least := by
  generalize hresult : Except.error failure = result at h
  cases h with
  | settled => exact .inr (exists_of_settle_eq_error hresult.symm)
  | tipUnread e _ => exact .inl ⟨_, e, Except.error.inj hresult⟩
  | priceUnread e _ => exact .inl ⟨_, e, Except.error.inj hresult⟩

/-! ### The two parts of fees of type 2 -/

def resolveTip : Option UInt128 → Operation UInt128
  | some tip => pure tip
  | none => Operation.read .priorityFee .maxPriorityFee

def resolveCap (cap : Option UInt128) (tip : UInt128) : Operation Fees :=
  match cap with
  | some cap =>
    if cap.toNat < tip.toNat then throw (.invalidFees cap tip) else pure (.dynamic tip cap)
  | none => Operation.read .gasPrice .gasPrice >>= fun gasPrice =>
    pure (.dynamic tip (defaultCap gasPrice tip))

theorem resolve_dynamic (given cap : Option UInt128) :
    (dynamic given cap).resolve = resolveTip given >>= resolveCap cap := by
  cases given <;> cases cap <;> rfl

theorem runs_resolveTip {given : Option UInt128} (cap : Option UInt128) {ms : List Moment}
    {result : Except Failure UInt128} (h : Runs (resolveTip given) ms result) :
    (∃ tip, ms = tipReads (dynamic given cap) tip ∧ result = .ok (given.getD tip)) ∨
      given = none ∧ ∃ e, ms = [asked .maxPriorityFee (.error e)] ∧
        result = .error (.read .priorityFee e) := by
  cases given with
  | some tip =>
    obtain ⟨rfl, rfl⟩ := runs_pure_iff.mp h
    exact .inl ⟨tip, rfl, rfl⟩
  | none =>
    cases result with
    | ok tip => exact .inl ⟨tip, runs_query_ok_iff.mp h, rfl⟩
    | error failure =>
      obtain ⟨e, rfl, rfl⟩ := runs_query_error_iff.mp h
      exact .inr ⟨rfl, e, rfl, rfl⟩

theorem settlement_of_runs_resolveCap {given cap : Option UInt128} {tip : UInt128}
    {ms : List Moment} {result : Except Failure Fees}
    (h : Runs (resolveCap cap (given.getD tip)) ms result) :
    ∃ gasPrice, (dynamic given cap).Settlement tip gasPrice
      (tipReads (dynamic given cap) tip ++ ms) result := by
  cases cap with
  | some cap =>
    -- Nothing is read for a cap that is given, and the answer to that question is arbitrary.
    have hsettled : (dynamic given (some cap)).Settlement tip 0 _ _ := .settled
    rw [settle, reads] at hsettled
    refine ⟨0, ?_⟩
    rw [resolveCap] at h
    split at h
    next hlt =>
      obtain ⟨rfl, rfl⟩ := runs_throw_iff.mp h
      rwa [if_pos hlt] at hsettled
    next hle =>
      obtain ⟨rfl, rfl⟩ := runs_pure_iff.mp h
      rwa [if_neg hle] at hsettled
  | none =>
    obtain ⟨e, rfl, rfl⟩ | ⟨gasPrice, rest, rfl, hrest⟩ := runs_query_bind_iff.mp h
    · exact ⟨0, .priceUnread e (by cases given <;> rfl)⟩
    · obtain ⟨rfl, rfl⟩ := runs_pure_iff.mp hrest
      have hsettled : (dynamic given none).Settlement tip gasPrice _ _ := .settled
      rw [settle, reads, priceReads, if_pos (by cases given <;> rfl)] at hsettled
      exact ⟨gasPrice, hsettled⟩

/-- However the node behaves, the fees come about in one of the ways of a settlement. -/
theorem settlement_of_runs {policy : FeePolicy} {ms : List Moment} {result : Except Failure Fees}
    (h : Runs policy.resolve ms result) :
    ∃ tip gasPrice, policy.Settlement tip gasPrice ms result := by
  match policy with
  | legacy (some gasPrice) =>
    obtain ⟨rfl, rfl⟩ := runs_pure_iff.mp h
    exact ⟨0, 0, .settled⟩
  | legacy none =>
    obtain ⟨e, rfl, rfl⟩ | ⟨gasPrice, rest, rfl, hrest⟩ := runs_query_bind_iff.mp h
    · exact ⟨0, 0, .priceUnread e rfl⟩
    · obtain ⟨rfl, rfl⟩ := runs_pure_iff.mp hrest
      exact ⟨0, gasPrice, .settled⟩
  | dynamic given cap =>
    rw [resolve_dynamic] at h
    obtain ⟨failure, hfail, rfl⟩ | ⟨ms₁, tip, ms₂, htip, hcap, rfl⟩ := runs_bind_iff.mp h
    · obtain ⟨tip, -, hok⟩ | ⟨rfl, e, rfl, herror⟩ := runs_resolveTip cap hfail
      · cases hok
      · cases herror
        exact ⟨0, 0, .tipUnread e rfl⟩
    · obtain ⟨suggested, rfl, hok⟩ | ⟨-, e, -, herror⟩ := runs_resolveTip cap htip
      · cases hok
        exact ⟨suggested, settlement_of_runs_resolveCap hcap⟩
      · cases herror

end Sandwich.FeePolicy
