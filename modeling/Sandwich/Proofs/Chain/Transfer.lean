import Sandwich.Chain
import Sandwich.Proofs.Table

/-! Money that moves between balances. A balance is a number of limited range, in
which additions wrap around. As long as all the money there is fits into the range
they do not, and balances change as whole numbers do. -/

namespace Sandwich.Chain

variable {balances balances' : Table Address UInt256} {account source target : Address}
  {amount : UInt256}

def debit (balances : Table Address UInt256) (account : Address) (amount : UInt256) :
    Table Address UInt256 :=
  balances.set account (balances.getD account 0 - amount)

def credit (balances : Table Address UInt256) (account : Address) (amount : UInt256) :
    Table Address UInt256 :=
  balances.set account (balances.getD account 0 + amount)

theorem toNat_getD_debit (h : amount.toNat ≤ (balances.getD account 0).toNat) (a : Address) :
    ((debit balances account amount).getD a 0).toNat + (if account = a then amount.toNat else 0) =
      (balances.getD a 0).toNat := by
  rw [debit, Table.getD_set]
  by_cases ha : account = a
  · subst ha
    rw [if_pos rfl, if_pos rfl, BitVec.toNat_sub_of_le (BitVec.le_def.mpr h)]
    omega
  · rw [if_neg ha, if_neg ha, Nat.add_zero]

theorem total_debit (h : amount.toNat ≤ (balances.getD account 0).toNat) :
    (debit balances account amount).total + amount.toNat = balances.total := by
  have hset := balances.total_set account (balances.getD account 0 - amount)
  rw [BitVec.toNat_sub_of_le (BitVec.le_def.mpr h)] at hset
  rw [debit]
  omega

/-- With room for it in the range, what is given to an account is added to its balance. -/
theorem toNat_getD_add (hfit : balances.total + amount.toNat < bitBound 256) :
    (balances.getD account 0 + amount).toNat = (balances.getD account 0).toNat + amount.toNat := by
  have hle := balances.getD_le_total account
  exact BitVec.toNat_add_of_lt (Nat.lt_of_le_of_lt (Nat.add_le_add_right hle _) hfit)

/-- Only the account that gets the amount needs room for it. -/
theorem toNat_getD_credit_of_room
    (hroom : (balances.getD account 0).toNat + amount.toNat < bitBound 256) (a : Address) :
    ((credit balances account amount).getD a 0).toNat =
      (balances.getD a 0).toNat + if account = a then amount.toNat else 0 := by
  rw [credit, Table.getD_set]
  by_cases ha : account = a
  · subst ha
    rw [if_pos rfl, if_pos rfl, BitVec.toNat_add_of_lt hroom]
  · rw [if_neg ha, if_neg ha, Nat.add_zero]

theorem toNat_getD_credit (hfit : balances.total + amount.toNat < bitBound 256) (a : Address) :
    ((credit balances account amount).getD a 0).toNat =
      (balances.getD a 0).toNat + if account = a then amount.toNat else 0 :=
  toNat_getD_credit_of_room
    (Nat.lt_of_le_of_lt (Nat.add_le_add_right (balances.getD_le_total account) _) hfit) a

/-- What is given to an account and taken from it again leaves it as it was, even if the sum wraps
around. -/
theorem getD_debit_credit (balances : Table Address UInt256) (account : Address) (amount : UInt256)
    (a : Address) :
    (debit (credit balances account amount) account amount).getD a 0 = balances.getD a 0 := by
  rw [debit, credit, Table.getD_set, Table.getD_set, Table.getD_set, if_pos rfl]
  split
  next ha => rw [BitVec.add_sub_cancel, ha]
  next => rfl

theorem total_credit (hfit : balances.total + amount.toNat < bitBound 256) :
    (credit balances account amount).total = balances.total + amount.toNat := by
  have hset := balances.total_set account (balances.getD account 0 + amount)
  rw [toNat_getD_add hfit] at hset
  rw [credit]
  omega

/-! ### Transfers -/

theorem transfer_eq_none_iff :
    transfer balances source target amount = none ↔
      (balances.getD source 0).toNat < amount.toNat := by
  rw [transfer]
  simp

theorem transfer_eq_some_iff :
    transfer balances source target amount = some balances' ↔
      amount.toNat ≤ (balances.getD source 0).toNat ∧
        balances' = credit (debit balances source amount) target amount := by
  rw [transfer]
  simp only [Option.ite_none_left_eq_some, Option.some_inj, Nat.not_lt]
  exact and_congr_right fun _ => eq_comm

/-- `amount` has moved from the balance of `source` to that of `target`, and neither sum nor
difference has wrapped around: the equation is one of whole numbers. -/
def Moved (balances balances' : Table Address UInt256) (source target : Address) (amount : Nat) :
    Prop :=
  ∀ a, (balances'.getD a 0).toNat + (if source = a then amount else 0) =
    (balances.getD a 0).toNat + if target = a then amount else 0

theorem moved_of_room (hle : amount.toNat ≤ (balances.getD source 0).toNat)
    (hroom : (balances.getD target 0).toNat + amount.toNat < bitBound 256) :
    Moved balances (credit (debit balances source amount) target amount) source target
      amount.toNat := by
  intro a
  have hdebit := toNat_getD_debit hle a
  have hroom' : ((debit balances source amount).getD target 0).toNat + amount.toNat <
      bitBound 256 := by
    have hdebit := toNat_getD_debit hle target
    omega
  rw [toNat_getD_credit_of_room hroom' a]
  omega

theorem moved_self (balances : Table Address UInt256) (source target : Address) :
    Moved balances balances source target 0 := by
  intro a
  rw [ite_self, ite_self]

variable (hfit : balances.total < bitBound 256)
  (h : transfer balances source target amount = some balances')

include hfit h

theorem moved_of_transfer : Moved balances balances' source target amount.toNat := by
  obtain ⟨hle, rfl⟩ := transfer_eq_some_iff.mp h
  intro a
  have hdebit := toNat_getD_debit hle a
  have hroom : (debit balances source amount).total + amount.toNat < bitBound 256 := by
    rwa [total_debit hle]
  rw [toNat_getD_credit hroom a]
  omega

/-- A transfer neither makes nor loses money. -/
theorem total_of_transfer : balances'.total = balances.total := by
  obtain ⟨hle, rfl⟩ := transfer_eq_some_iff.mp h
  have hroom : (debit balances source amount).total + amount.toNat < bitBound 256 := by
    rwa [total_debit hle]
  rw [total_credit hroom, total_debit hle]

end Sandwich.Chain
