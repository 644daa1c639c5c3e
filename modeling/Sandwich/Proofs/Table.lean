import Sandwich.Bytes
import Sandwich.Table

/-! What is found in a table after a value has been put into it, and what the
numbers in a table come to. -/

namespace Sandwich.Table

variable {κ α : Type} [DecidableEq κ]

theorem find?_putRow (key key' : κ) (value : α) (rows : List (κ × α)) :
    (putRow key value rows).find? (·.1 = key') =
      if key = key' then some (key, value) else rows.find? (·.1 = key') := by
  induction rows with
  | nil => by_cases h : key = key' <;> simp [putRow, h]
  | cons row rows ih =>
    rw [putRow]
    by_cases hrow : row.1 = key
    · rw [if_pos hrow, List.find?_cons, List.find?_cons, hrow]
      by_cases hkey : key = key' <;> simp [hkey]
    · rw [if_neg hrow, List.find?_cons, List.find?_cons, ih]
      by_cases hkey : key = key'
      · have hne : row.1 ≠ key' := fun h => hrow (h.trans hkey.symm)
        simp [hkey, hne]
      · simp [hkey]

theorem get?_set (t : Table κ α) (key key' : κ) (value : α) :
    (t.set key value).get? key' = if key = key' then some value else t.get? key' := by
  rw [get?, set, find?_putRow]
  by_cases h : key = key'
  · simp [h]
  · simp [h, get?]

theorem getD_set (t : Table κ α) (key key' : κ) (value default : α) :
    (t.set key value).getD key' default = if key = key' then value else t.getD key' default := by
  rw [getD, get?, set, find?_putRow]
  by_cases h : key = key'
  · simp [h]
  · simp [h, getD, get?]

theorem getD_set_getD (t : Table κ α) (key key' : κ) (default : α) :
    (t.set key (t.getD key default)).getD key' default = t.getD key' default := by
  rw [getD_set]
  by_cases h : key = key'
  · rw [if_pos h, h]
  · rw [if_neg h]

theorem get?_erase (t : Table κ α) (key key' : κ) :
    (t.erase key).get? key' = if key = key' then none else t.get? key' := by
  rw [get?, erase, get?]
  by_cases h : key = key'
  · subst h
    rw [if_pos rfl, List.find?_filter]
    simp
  · rw [if_neg h, List.find?_filter]
    congr 2
    funext row
    by_cases hrow : row.1 = key'
    · simp [hrow, Ne.symm h]
    · simp [hrow]

/-! ### Sums -/

def sum : List (κ × UInt256) → Nat
  | [] => 0
  | row :: rows => row.2.toNat + sum rows

/-- The sum of the numbers in a table. A key that is not in it counts as zero. -/
def total (t : Table κ UInt256) : Nat := sum t.rows

theorem sum_putRow (key : κ) (value : UInt256) (rows : List (κ × UInt256)) :
    sum (putRow key value rows) + (((rows.find? (·.1 = key)).map Prod.snd).getD 0).toNat =
      sum rows + value.toNat := by
  induction rows with
  | nil => simp [putRow, sum]
  | cons row rows ih =>
    by_cases hrow : row.1 = key
    · simp only [putRow, hrow, if_true, sum, List.find?_cons, decide_true, Option.map_some,
        Option.getD_some]
      omega
    · simp only [putRow, hrow, if_false, sum, List.find?_cons, decide_false]
      omega

theorem le_sum (key : κ) (rows : List (κ × UInt256)) :
    (((rows.find? (·.1 = key)).map Prod.snd).getD 0).toNat ≤ sum rows := by
  induction rows with
  | nil => simp [sum]
  | cons row rows ih =>
    by_cases hrow : row.1 = key
    · simp only [sum, List.find?_cons, hrow, decide_true, Option.map_some, Option.getD_some]
      omega
    · simp only [sum, List.find?_cons, hrow, decide_false]
      omega

/-- A number takes the place of the one that was there. -/
theorem total_set (t : Table κ UInt256) (key : κ) (value : UInt256) :
    (t.set key value).total + (t.getD key 0).toNat = t.total + value.toNat :=
  sum_putRow key value t.rows

theorem getD_le_total (t : Table κ UInt256) (key : κ) : (t.getD key 0).toNat ≤ t.total :=
  le_sum key t.rows

end Sandwich.Table
