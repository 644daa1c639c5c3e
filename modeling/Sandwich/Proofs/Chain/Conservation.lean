import Mathlib.Data.List.Induction
import Sandwich.Proofs.Chain.FailedTransaction

/-! Money on the chain. Transactions move it between accounts, and a deposit gives
out as much of the wrapped asset as it brings to the account that backs it. As long
as all the money there is fits into the range of a balance, no addition wraps
around, and the sums over all accounts are what they should be. -/

namespace Sandwich

theorem Abi.take_of_arguments? {selector input arguments : Bytes}
    (h : arguments? selector input = some arguments) : input.take 4 = selector := by
  rw [arguments?] at h
  split at h
  · assumption
  · cases h

namespace Chain

/-! ### Deposits -/

/-- What a transaction that ends with `success` has wrapped: its value if it was a deposit. -/
def wrappedBy (c : Settings) (t : Transaction) (success : Bool) : Nat :=
  if t.callee = c.wrapped ∧ t.input.take 4 = Abi.depositSelector ∧ success = true then
    t.value.toNat
  else 0

theorem wrappedBy_le (c : Settings) (t : Transaction) (success : Bool) :
    wrappedBy c t success ≤ if t.callee = c.wrapped then t.value.toNat else 0 := by
  rw [wrappedBy]
  split
  next h => exact Nat.le_of_eq (if_pos h.1).symm
  next => exact Nat.zero_le _

theorem wrappedBy_of_take {c : Settings} {t : Transaction} {selector : Bytes} (success : Bool)
    (h : t.input.take 4 = selector) (hne : selector ≠ Abi.depositSelector) :
    wrappedBy c t success = 0 :=
  if_neg fun hdeposit => hne (h.symm.trans hdeposit.2.1)

theorem wrappedBy_of_ne {c : Settings} {t : Transaction} (success : Bool)
    (h : t.callee ≠ c.wrapped) : wrappedBy c t success = 0 :=
  if_neg fun hdeposit => h hdeposit.1

/-- What becomes of the wrapped balances in a call by `sender`, and how much is wrapped. -/
inductive Rewrapped (sender : Address) (value : UInt256) (wrapped : Table Address UInt256) :
    Table Address UInt256 → Nat → Prop
  | kept : Rewrapped sender value wrapped wrapped 0
  | moved {source target : Address} {amount : UInt256} {wrapped' : Table Address UInt256}
      (h : transfer wrapped source target amount = some wrapped') :
      Rewrapped sender value wrapped wrapped' 0
  | deposited : Rewrapped sender value wrapped (credit wrapped sender value) value.toNat

theorem Called.rewrapped {scheme : Scheme} {c : Settings} {sender : Address} {t : Transaction}
    {s : State} {e : Execution} (h : Called scheme c sender t.callee t.value t.input s e) :
    Rewrapped sender t.value s.wrapped e.state.wrapped (wrappedBy c t e.success) := by
  cases h with
  | failed =>
    have hzero : wrappedBy c t false = 0 := if_neg nofun
    rw [Execution.silent, hzero]
    exact .kept
  | deployed _ hcall =>
    obtain ⟨arguments, harguments, -⟩ := Option.bind_eq_some_iff.mp hcall
    rw [wrappedBy_of_take _ (Abi.take_of_arguments? harguments) (by decide)]
    exact .kept
  | deposited _ hreceiver hcall =>
    obtain ⟨arguments, harguments⟩ := Option.isSome_iff_exists.mp hcall
    have hvalue : wrappedBy c t true = t.value.toNat :=
      if_pos ⟨hreceiver, Abi.take_of_arguments? harguments, rfl⟩
    rw [Execution.silent, hvalue]
    exact .deposited
  | transferred _ _ hcall hmove =>
    obtain ⟨arguments, harguments, -⟩ := Option.bind_eq_some_iff.mp hcall
    rw [wrappedBy_of_take _ (Abi.take_of_arguments? harguments) (by decide)]
    exact .moved hmove
  | recovered _ hreceiver _ hmove =>
    rw [wrappedBy_of_ne _ hreceiver]
    exact .moved hmove
  | destroyed _ hreceiver _ | obeyed _ hreceiver =>
    rw [wrappedBy_of_ne _ hreceiver]
    exact .kept

theorem Called.balances {scheme : Scheme} {c : Settings} {sender receiver : Address}
    {value : UInt256} {input : Bytes} {s : State} {e : Execution}
    (h : Called scheme c sender receiver value input s e) : e.state.balances = s.balances := by
  cases h <;> rfl

/-- `amount` has been added to the balance of an account, and the sum has not wrapped around. -/
def Added (balances balances' : Table Address UInt256) (account : Address) (amount : Nat) : Prop :=
  ∀ a, (balances'.getD a 0).toNat = (balances.getD a 0).toNat + if account = a then amount else 0

section

variable {sender : Address} {value : UInt256} {wrapped wrapped' : Table Address UInt256}
  {deposit : Nat} (h : Rewrapped sender value wrapped wrapped' deposit)
  (hfit : wrapped.total + deposit < bitBound 256)

include h hfit

theorem Rewrapped.total : wrapped'.total = wrapped.total + deposit := by
  cases h with
  | kept => rfl
  | moved h => exact total_of_transfer hfit h
  | deposited => exact total_credit hfit

theorem Rewrapped.exact : (deposit = 0 ∧ ∃ source target amount,
    Moved wrapped wrapped' source target amount) ∨ Added wrapped wrapped' sender deposit := by
  cases h with
  | kept => exact .inl ⟨rfl, sender, sender, 0, moved_self wrapped sender sender⟩
  | @moved source target amount _ h =>
    exact .inl ⟨rfl, source, target, amount.toNat, moved_of_transfer hfit h⟩
  | deposited => exact .inr (toNat_getD_credit hfit)

end

/-! ### One submission -/

/-- What a submission makes of the money, where `deposit` is wrapped by it. All the equations are
of whole numbers. -/
structure Conducts (c : Settings) (s s' : State) (deposit : Nat) : Prop where
  /-- Native money moves between two accounts, if at all. -/
  native : ∃ source target amount, Moved s.balances s'.balances source target amount
  /-- Wrapped money moves between two accounts, unless it is given out to a depositor. -/
  wrapped : (deposit = 0 ∧ ∃ source target amount,
    Moved s.wrapped s'.wrapped source target amount) ∨
      ∃ depositor, Added s.wrapped s'.wrapped depositor deposit
  totalNative : s'.balances.total = s.balances.total
  totalWrapped : s'.wrapped.total = s.wrapped.total + deposit
  /-- The account of the wrapped asset gets all that is wrapped. -/
  reserve : (s.balances.getD c.wrapped 0).toNat + deposit ≤ (s'.balances.getD c.wrapped 0).toNat

theorem conducts_of_same {c : Settings} {s s' : State} (hbalances : s'.balances = s.balances)
    (hwrapped : s'.wrapped = s.wrapped) : Conducts c s s' 0 where
  native := ⟨c.wrapped, c.wrapped, 0, by rw [hbalances]; exact moved_self _ _ _⟩
  wrapped := .inl ⟨rfl, c.wrapped, c.wrapped, 0, by rw [hwrapped]; exact moved_self _ _ _⟩
  totalNative := by rw [hbalances]
  totalWrapped := by rw [hwrapped, Nat.add_zero]
  reserve := by rw [hbalances]; exact Nat.le_refl _

/-- There is room in the range for all native money, and for all that is wrapped together with
what could still be wrapped. -/
structure Roomy (c : Settings) (s : State) : Prop where
  native : s.balances.total < bitBound 256
  wrapped : s.wrapped.total + s.balances.total < bitBound 256 + (s.balances.getD c.wrapped 0).toNat

theorem Conducts.roomy {c : Settings} {s s' : State} {deposit : Nat}
    (h : Conducts c s s' deposit) (hs : Roomy c s) : Roomy c s' where
  native := by
    rw [h.totalNative]
    exact hs.native
  wrapped := by
    have hwrapped := hs.wrapped
    have hreserve := h.reserve
    rw [h.totalNative, h.totalWrapped]
    omega

variable {scheme : Scheme} {c : Settings} {sender : Address} {s : State}

/-- Whatever comes of a transaction, if its sender is not the wrapped asset. -/
theorem conducts_of_executed {t : Transaction} {e : Execution} (hs : Roomy c s)
    (hsender : sender ≠ c.wrapped)
    (h : Executed scheme c sender t.callee t.value t.input s e) :
    Conducts c s e.state (wrappedBy c t e.success) := by
  cases h with
  | barred _ | unpaid _ _ =>
    have hzero : wrappedBy c t false = 0 := if_neg nofun
    rw [Execution.silent, hzero]
    exact conducts_of_same rfl rfl
  | @called balances e _ hpay hcall =>
    have hmoved := moved_of_transfer hs.native hpay
    have htotal := total_of_transfer hs.native hpay
    -- The wrapped asset is not the one that pays, so it has what it had and what it is paid.
    have hreserve : (s.balances.getD c.wrapped 0).toNat + wrappedBy c t e.success ≤
        (balances.getD c.wrapped 0).toNat := by
      have hpaid := hmoved c.wrapped
      rw [if_neg hsender, Nat.add_zero] at hpaid
      rw [hpaid]
      exact Nat.add_le_add_left (wrappedBy_le c t e.success) _
    have hfit : s.wrapped.total + wrappedBy c t e.success < bitBound 256 := by
      have hroom := hs.wrapped
      have hle := balances.getD_le_total c.wrapped
      omega
    have hrewrapped := hcall.rewrapped
    exact {
      native := ⟨sender, t.callee, t.value.toNat, by rw [hcall.balances]; exact hmoved⟩
      wrapped := (hrewrapped.exact hfit).imp_right fun hadded => ⟨sender, hadded⟩
      totalNative := by rw [hcall.balances]; exact htotal
      totalWrapped := hrewrapped.total hfit
      reserve := by rw [hcall.balances]; exact hreserve }

/-- What is wrapped when a raw transaction is submitted. The receipt tells whether it succeeds. -/
def depositOf (scheme : Scheme) (c : Settings) (raw : Bytes) (s : State) : Nat :=
  match submit scheme c raw s with
  | (.error _, _) => 0
  | (.ok hash, s') =>
    match scheme.decode raw, s'.receipts.get? hash with
    | .ok signed, some receipt => wrappedBy c signed.transaction receipt.success
    | _, _ => 0

/-- A raw transaction moves money, and no more, whether it is taken or not. -/
theorem conducts_submit {raw : Bytes} (hs : Roomy c s)
    (hforeign : ¬ SignedBy scheme c.wrapped raw) :
    Conducts c s (submit scheme c raw s).2 (depositOf scheme c raw s) := by
  rw [depositOf]
  obtain ⟨refusal, rejectNext, hrefused⟩ | ⟨signed, sender, e, hdecode, hsender, he, htaken⟩ :=
    submit_cases scheme c s raw
  · rw [hrefused]
    exact conducts_of_same rfl rfl
  · have hne : sender ≠ c.wrapped := by
      rintro rfl
      exact hforeign ⟨signed, hdecode, hsender⟩
    simp only [htaken, hdecode, get?_receipts_recorded]
    -- The record does not touch the money.
    have h := conducts_of_executed (s := s.used sender signed.transaction)
      ⟨hs.native, hs.wrapped⟩ hne he
    exact ⟨h.native, h.wrapped, h.totalNative, h.totalWrapped, h.reserve⟩

/-! ### Many submissions -/

def submitAll (scheme : Scheme) (c : Settings) (raws : List Bytes) (s : State) : State :=
  raws.foldl (fun s raw => (submit scheme c raw s).2) s

def deposits (scheme : Scheme) (c : Settings) : List Bytes → State → Nat
  | [], _ => 0
  | raw :: raws, s =>
    depositOf scheme c raw s + deposits scheme c raws (submit scheme c raw s).2

theorem submitAll_append (scheme : Scheme) (c : Settings) (raws raws' : List Bytes) (s : State) :
    submitAll scheme c (raws ++ raws') s = submitAll scheme c raws' (submitAll scheme c raws s) :=
  List.foldl_append

theorem roomy_submitAll {raws : List Bytes} (hs : Roomy c s)
    (hforeign : ∀ raw ∈ raws, ¬ SignedBy scheme c.wrapped raw) :
    Roomy c (submitAll scheme c raws s) := by
  induction raws generalizing s with
  | nil => exact hs
  | cons raw raws ih =>
    obtain ⟨hraw, hraws⟩ := List.forall_mem_cons.mp hforeign
    exact ih ((conducts_submit hs hraw).roomy hs) hraws

/-- What a sequence of submissions makes of the money. -/
structure Conserved (scheme : Scheme) (c : Settings) (raws : List Bytes) (s s' : State) : Prop where
  native : s'.balances.total = s.balances.total
  wrapped : s'.wrapped.total = s.wrapped.total + deposits scheme c raws s
  reserve : (s.balances.getD c.wrapped 0).toNat + deposits scheme c raws s ≤
    (s'.balances.getD c.wrapped 0).toNat

theorem conserved_submitAll {raws : List Bytes} (hs : Roomy c s)
    (hforeign : ∀ raw ∈ raws, ¬ SignedBy scheme c.wrapped raw) :
    Conserved scheme c raws s (submitAll scheme c raws s) := by
  induction raws generalizing s with
  | nil => exact ⟨rfl, rfl, Nat.le_refl _⟩
  | cons raw raws ih =>
    obtain ⟨hraw, hraws⟩ := List.forall_mem_cons.mp hforeign
    have hfirst := conducts_submit hs hraw
    have hrest := ih (hfirst.roomy hs) hraws
    exact {
      native := hrest.native.trans hfirst.totalNative
      wrapped := by
        rw [deposits, ← Nat.add_assoc, ← hfirst.totalWrapped]
        exact hrest.wrapped
      reserve := by
        rw [deposits, ← Nat.add_assoc]
        exact Nat.le_trans (Nat.add_le_add_right hfirst.reserve _) hrest.reserve }

/-- Wrapped money that is backed stays so. -/
theorem Conserved.backed {raws : List Bytes} {s' : State} (h : Conserved scheme c raws s s')
    (hbacked : s.wrapped.total ≤ (s.balances.getD c.wrapped 0).toNat) :
    s'.wrapped.total ≤ (s'.balances.getD c.wrapped 0).toNat :=
  calc s'.wrapped.total
    _ = s.wrapped.total + deposits scheme c raws s := h.wrapped
    _ ≤ (s.balances.getD c.wrapped 0).toNat + deposits scheme c raws s :=
      Nat.add_le_add_right hbacked _
    _ ≤ (s'.balances.getD c.wrapped 0).toNat := h.reserve

/-- Money is neither made nor lost. Starting with no more of it than fits into the range, whatever
raw transactions are submitted, unless the wrapped asset signs them: the native money stays as much
as it is, the wrapped money grows by what is deposited, and it stays backed if it was. Each of the
submissions moves money by equations of whole numbers, so no addition wraps around. -/
theorem conserved_of_fit (scheme : Scheme) (c : Settings) (first : State) (raws : List Bytes)
    (hfit : first.balances.total + first.wrapped.total < bitBound 256)
    (hforeign : ∀ raw ∈ raws, ¬ SignedBy scheme c.wrapped raw) :
    let last := submitAll scheme c raws first
    Conserved scheme c raws first last ∧
      (first.wrapped.total ≤ (first.balances.getD c.wrapped 0).toNat →
        last.wrapped.total ≤ (last.balances.getD c.wrapped 0).toNat) ∧
      ∀ before raw after, raws = before ++ raw :: after →
        Conducts c (submitAll scheme c before first) (submitAll scheme c (before ++ [raw]) first)
          (depositOf scheme c raw (submitAll scheme c before first)) := by
  intro last
  have hroomy : Roomy c first := ⟨by omega, by omega⟩
  have h := conserved_submitAll hroomy hforeign
  refine ⟨h, h.backed, ?_⟩
  rintro before raw after rfl
  have hbefore := roomy_submitAll hroomy fun raw' hraw' =>
    hforeign raw' (List.mem_append_left _ hraw')
  rw [submitAll_append]
  exact conducts_submit hbefore (hforeign raw (by simp))

/-! ### A deposit after a call that fails -/

def depositCall : SignedTransaction where
  transaction := {
    chainId := some 1
    nonce := 8
    gasLimit := 250000
    receiver := some mainnetWrapped
    value := 9
    input := Abi.deposit
    kind := .legacy 20000000000 }
  signature := {
    odd := true
    r := 0x26340385596c09c1a33b7590f5f003bc61242a59a5012c9057e71c64cf92f408
    s := 0x46cca392eb1534176fb8bbe79bcaf6129ec3bcfd0ae22c41a4c18f0b7eab239d }

def depositScheme : Scheme := .tabulated [
  (strayCall, devAccount, strayHash),
  (depositCall, devAccount,
    Octets.ofNat 32 0x77b2ae8a01c14762623e08b4209993d018f6a1c79a9879e2941f2139344ae001)]

/-- Of the eighteen wei that go to the wrapped asset, nine are wrapped. -/
theorem conserved_strayCall_depositCall :
    strayStart.balances.total + strayStart.wrapped.total < bitBound 256 ∧
      deposits depositScheme {} [strayCall.encode, depositCall.encode] strayStart = 9 ∧
      Conserved depositScheme {} [strayCall.encode, depositCall.encode] strayStart
        (submitAll depositScheme {} [strayCall.encode, depositCall.encode] strayStart) := by
  have hfit : strayStart.balances.total + strayStart.wrapped.total < bitBound 256 := by
    decide +kernel
  have hforeign : ∀ raw ∈ [strayCall.encode, depositCall.encode],
      ¬ SignedBy depositScheme mainnetWrapped raw := by
    rintro raw - ⟨signed, -, hsender⟩
    obtain ⟨row, hrow, hwrapped⟩ := Option.map_eq_some_iff.mp hsender
    have hmem := List.mem_of_find?_eq_some hrow
    have haccount : row.2.1 = devAccount := by
      obtain rfl | rfl : row = _ ∨ row = _ := by simpa using hmem
      · rfl
      · rfl
    rw [haccount] at hwrapped
    exact absurd hwrapped (by decide)
  exact ⟨hfit, by decide +kernel, (conserved_of_fit depositScheme {} strayStart _ hfit hforeign).1⟩

end Chain

end Sandwich
