import Mathlib.Tactic.NormNum
import Sandwich.Proofs.Fees

/-! What comes of a fee policy, whatever the node answers. What is given stays as it is,
and the node is asked for the rest, the tip before the gas price. A cap that is left open
is twice the gas price and the tip, as far as 128 bits go, so that it is never below the
tip; only a cap that is given can be, and then there are no fees. -/

namespace Sandwich.FeePolicy

open Operation Program

/-! ### The default cap -/

/-- Both of its steps stay at the largest number, so that the whole does. -/
theorem toNat_defaultCap (gasPrice tip : UInt128) :
    (defaultCap gasPrice tip).toNat = min (2 * gasPrice.toNat + tip.toNat) (2 ^ 128 - 1) := by
  have hceiling : ceiling = 2 ^ 128 - 1 := rfl
  rw [defaultCap, BitVec.toNat_ofNat, hceiling]
  omega

theorem le_toNat_defaultCap (gasPrice tip : UInt128) :
    tip.toNat ≤ (defaultCap gasPrice tip).toNat := by
  have htip : tip.toNat < 2 ^ 128 := tip.isLt
  rw [toNat_defaultCap]
  omega

/-! ### Where each part of the fees comes from -/

/-- What the policy leaves to the node, in the order in which it is asked. -/
def questions : FeePolicy → List Query
  | legacy given => if given.isNone then [.gasPrice] else []
  | dynamic tip cap =>
    (if tip.isNone then [.maxPriorityFee] else []) ++ if cap.isNone then [.gasPrice] else []

def PriceFrom (ms : List Moment) (given : Option UInt128) (gasPrice : UInt128) : Prop :=
  given = some gasPrice ∨ given = none ∧ asked .gasPrice (.ok gasPrice) ∈ ms

def TipFrom (ms : List Moment) (given : Option UInt128) (tip : UInt128) : Prop :=
  given = some tip ∨ given = none ∧ asked .maxPriorityFee (.ok tip) ∈ ms

/-- The cap is the one given, if the tip is not above it, or else twice the gas price that the
node answered among `ms` and the tip, as far as 128 bits go. -/
def CapFrom (ms : List Moment) (given : Option UInt128) (tip cap : UInt128) : Prop :=
  given = some cap ∧ tip.toNat ≤ cap.toNat ∨
    given = none ∧ ∃ gasPrice, asked .gasPrice (.ok gasPrice) ∈ ms ∧
      cap.toNat = min (2 * gasPrice.toNat + tip.toNat) (2 ^ 128 - 1)

structure Resolved (policy : FeePolicy) (ms : List Moment) (result : Except Failure Fees) :
    Prop where
  /-- The node is asked for what is left open and for nothing else. -/
  inOrder : (calls ms).map (·.1) <+: policy.questions.map .query
  complete : (∀ q e, asked q (.error e) ∉ ms) → (calls ms).map (·.1) = policy.questions.map .query
  /-- A question without an answer is the last one. -/
  stopped (q : Query) (e : ClientError) : asked q (.error e) ∈ ms →
    ms.getLast? = some (asked q (.error e))
  legacy (gasPrice : UInt128) : result = .ok (.legacy gasPrice) ↔
    ∃ given, policy = .legacy given ∧ PriceFrom ms given gasPrice
  dynamic (tip cap : UInt128) : result = .ok (.dynamic tip cap) ↔
    ∃ givenTip givenCap, policy = .dynamic givenTip givenCap ∧ TipFrom ms givenTip tip ∧
      CapFrom ms givenCap tip cap
  /-- No fees have the tip above the cap. -/
  ordered (tip cap : UInt128) : result = .ok (.dynamic tip cap) → tip.toNat ≤ cap.toNat
  invalid (cap tip : UInt128) : result = .error (.invalidFees cap tip) ↔
    ∃ given, policy = .dynamic given (some cap) ∧ TipFrom ms given tip ∧ cap.toNat < tip.toNat
  unread (step : ReadStep) (e : ClientError) : result = .error (.read step e) ↔
    step = .priorityFee ∧ asked .maxPriorityFee (.error e) ∈ ms ∨
      step = .gasPrice ∧ asked .gasPrice (.error e) ∈ ms
  exhausted (failure : Failure) : result = .error failure →
    (∃ step e, failure = .read step e) ∨ ∃ cap tip, failure = .invalidFees cap tip

/-! ### When all questions are answered -/

theorem calls_reads (policy : FeePolicy) (tip gasPrice : UInt128) :
    (calls (policy.reads tip gasPrice)).map (·.1) = policy.questions.map .query := by
  match policy with
  | .legacy none | .legacy (some _) => rfl
  | .dynamic none none | .dynamic none (some _) => rfl
  | .dynamic (some _) none | .dynamic (some _) (some _) => rfl

theorem error_notMem_reads (policy : FeePolicy) (tip gasPrice : UInt128) (q : Query)
    (e : ClientError) : asked q (.error e) ∉ policy.reads tip gasPrice := by
  rw [mem_reads_iff]
  rintro (⟨-, h⟩ | ⟨-, h⟩)
  · cases h
  · cases h

section Answered

variable {given givenCap : Option UInt128} {tip gasPrice : UInt128}

theorem priceFrom_reads {price : UInt128} :
    PriceFrom ((FeePolicy.legacy given).reads tip gasPrice) given price ↔
      price = given.getD gasPrice := by
  cases given with
  | none => simp [PriceFrom, leavesTip, leavesPrice]
  | some fixed => simpa [PriceFrom] using eq_comm

theorem tipFrom_reads {t : UInt128} :
    TipFrom ((FeePolicy.dynamic given givenCap).reads tip gasPrice) given t ↔
      t = given.getD tip := by
  cases given with
  | none => simp [TipFrom, leavesTip]
  | some fixed => simpa [TipFrom] using eq_comm

theorem capFrom_reads {t cap : UInt128} :
    CapFrom ((FeePolicy.dynamic given givenCap).reads tip gasPrice) givenCap t cap ↔
      givenCap = some cap ∧ t.toNat ≤ cap.toNat ∨
        givenCap = none ∧ cap = defaultCap gasPrice t := by
  refine or_congr_right (and_congr_right ?_)
  rintro rfl
  have hasked (price : UInt128) : asked .gasPrice (.ok price) ∈
      (FeePolicy.dynamic given none).reads tip gasPrice ↔ price = gasPrice := by
    simp [leavesPrice]
  simp only [hasked, exists_eq_left, ← toNat_defaultCap, BitVec.toNat_inj]

end Answered

section Settle

variable {policy : FeePolicy} {tip gasPrice : UInt128}

theorem settle_eq_legacy_iff {price : UInt128} :
    policy.settle tip gasPrice = .ok (.legacy price) ↔
      ∃ given, policy = .legacy given ∧ price = given.getD gasPrice := by
  constructor
  · intro h
    match policy with
    | .legacy given =>
      cases h
      exact ⟨given, rfl, rfl⟩
    | .dynamic given none => cases h
    | .dynamic given (some fixed) =>
      rw [settle] at h
      split at h <;> cases h
  · rintro ⟨given, rfl, rfl⟩
    rfl

theorem settle_eq_dynamic_iff {t cap : UInt128} :
    policy.settle tip gasPrice = .ok (.dynamic t cap) ↔
      ∃ given givenCap, policy = .dynamic given givenCap ∧ t = given.getD tip ∧
        (givenCap = some cap ∧ t.toNat ≤ cap.toNat ∨
          givenCap = none ∧ cap = defaultCap gasPrice t) := by
  constructor
  · intro h
    match policy with
    | .legacy given => cases h
    | .dynamic given none =>
      cases h
      exact ⟨given, none, rfl, rfl, .inr ⟨rfl, rfl⟩⟩
    | .dynamic given (some fixed) =>
      rw [settle] at h
      split at h
      next => cases h
      next hle =>
        cases h
        exact ⟨given, some cap, rfl, rfl, .inl ⟨rfl, Nat.le_of_not_lt hle⟩⟩
  · rintro ⟨given, _, rfl, rfl, ⟨rfl, hle⟩ | ⟨rfl, rfl⟩⟩
    · rw [settle, if_neg (Nat.not_lt.mpr hle)]
    · rfl

theorem settle_eq_invalid_iff {cap t : UInt128} :
    policy.settle tip gasPrice = .error (.invalidFees cap t) ↔
      ∃ given, policy = .dynamic given (some cap) ∧ t = given.getD tip ∧
        cap.toNat < t.toNat := by
  constructor
  · intro h
    match policy with
    | .legacy given => cases h
    | .dynamic given none => cases h
    | .dynamic given (some fixed) =>
      rw [settle] at h
      split at h
      next hlt =>
        cases h
        exact ⟨given, rfl, rfl, hlt⟩
      next => cases h
  · rintro ⟨given, rfl, rfl, hlt⟩
    rw [settle, if_pos hlt]

end Settle

theorem resolved_settled (policy : FeePolicy) (tip gasPrice : UInt128) :
    policy.Resolved (policy.reads tip gasPrice) (policy.settle tip gasPrice) := by
  have hanswered := error_notMem_reads policy tip gasPrice
  constructor
  case inOrder => exact (calls_reads policy tip gasPrice).symm ▸ List.prefix_refl _
  case complete => exact fun _ => calls_reads policy tip gasPrice
  case stopped => exact fun q e h => absurd h (hanswered q e)
  case legacy =>
    intro price
    refine settle_eq_legacy_iff.trans (exists_congr fun given => and_congr_right ?_)
    rintro rfl
    rw [priceFrom_reads]
  case dynamic =>
    intro t cap
    refine settle_eq_dynamic_iff.trans
      (exists_congr fun given => exists_congr fun givenCap => and_congr_right ?_)
    rintro rfl
    rw [tipFrom_reads, capFrom_reads]
  case ordered =>
    intro t cap h
    obtain ⟨given, givenCap, -, -, ⟨-, hle⟩ | ⟨-, rfl⟩⟩ := settle_eq_dynamic_iff.mp h
    · exact hle
    · exact le_toNat_defaultCap gasPrice t
  case invalid =>
    intro cap t
    refine settle_eq_invalid_iff.trans (exists_congr fun given => and_congr_right ?_)
    rintro rfl
    rw [tipFrom_reads]
  case unread =>
    intro step e
    simp only [hanswered, and_false, or_false, iff_false]
    intro h
    obtain ⟨cap, least, hinvalid⟩ := exists_of_settle_eq_error h
    cases hinvalid
  case exhausted => exact fun failure h => .inr (exists_of_settle_eq_error h)

/-! ### When one is not -/

theorem resolved_tipUnread {policy : FeePolicy} (h : policy.leavesTip = true) (e : ClientError) :
    policy.Resolved [asked .maxPriorityFee (.error e)] (.error (.read .priorityFee e)) := by
  match policy with
  | .dynamic none givenCap =>
    constructor
    case inOrder => exact List.prefix_append [Act.query .maxPriorityFee] _
    case complete => exact fun hnone => absurd List.mem_cons_self (hnone _ e)
    case stopped =>
      intro q e' hmem
      rw [List.mem_singleton.mp hmem]
      rfl
    case unread => exact fun step e' => by simpa using and_congr eq_comm eq_comm
    all_goals simp [TipFrom]

theorem calls_priceUnread {policy : FeePolicy} (h : policy.leavesPrice = true) (tip : UInt128)
    (e : ClientError) :
    (calls (policy.tipReads tip ++ [asked .gasPrice (.error e)])).map (·.1) =
      policy.questions.map .query := by
  match policy with
  | .legacy none | .dynamic none none | .dynamic (some _) none => rfl

theorem resolved_priceUnread {policy : FeePolicy} (h : policy.leavesPrice = true) (tip : UInt128)
    (e : ClientError) :
    policy.Resolved (policy.tipReads tip ++ [asked .gasPrice (.error e)])
      (.error (.read .gasPrice e)) := by
  have hcalls := calls_priceUnread h tip e
  have hunread (gasPrice : UInt128) : asked .gasPrice (.ok gasPrice) ∉
      policy.tipReads tip ++ [asked .gasPrice (.error e)] := by simp
  constructor
  case inOrder => exact hcalls ▸ List.prefix_refl _
  case complete => exact fun _ => hcalls
  case stopped =>
    intro q e' hmem
    obtain hmem | hmem := List.mem_append.mp hmem
    · cases (mem_tipReads_iff.mp hmem).2
    · rw [List.mem_singleton.mp hmem, List.getLast?_concat]
  case unread => exact fun step e' => by simpa using and_congr eq_comm eq_comm
  case legacy =>
    refine fun gasPrice => iff_of_false nofun ?_
    rintro ⟨given, rfl, hprice⟩
    cases given with
    | none => simp [PriceFrom] at hprice
    | some _ => cases h
  case dynamic =>
    refine fun tip cap => iff_of_false nofun ?_
    rintro ⟨given, givenCap, rfl, -, hcap⟩
    cases givenCap with
    | none => simp [CapFrom] at hcap
    | some _ => cases h
  case ordered => nofun
  case invalid =>
    refine fun cap tip => iff_of_false nofun ?_
    rintro ⟨given, rfl, -, -⟩
    cases h
  case exhausted =>
    rintro failure ⟨⟩
    exact .inl ⟨_, _, rfl⟩

theorem resolved_of_settlement {policy : FeePolicy} {tip gasPrice : UInt128} {ms : List Moment}
    {result : Except Failure Fees} (h : policy.Settlement tip gasPrice ms result) :
    policy.Resolved ms result := by
  cases h with
  | settled => exact resolved_settled policy tip gasPrice
  | tipUnread e htip => exact resolved_tipUnread htip e
  | priceUnread e hprice => exact resolved_priceUnread hprice tip e

/-- However the node behaves, its answers and what is given decide the fees and the failures. -/
theorem resolve_resolved (policy : FeePolicy) {σ : Type}
    (surroundings : (act : Act) → σ → act.Reply × σ) (start : σ) :
    let o := policy.resolve.run.run surroundings start
    policy.Resolved o.moments o.result := by
  intro o
  obtain ⟨tip, gasPrice, h⟩ := settlement_of_runs (runs_run surroundings policy.resolve.run start)
  exact resolved_of_settlement h

end Sandwich.FeePolicy
