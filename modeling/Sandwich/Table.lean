/-! Tables: at most one value for each key. -/

namespace Sandwich

/-- A finite map, its rows in the order in which the keys came in. -/
structure Table (κ α : Type) where
  rows : List (κ × α)
  nodup : (rows.map (·.1)).Nodup

namespace Table

variable {κ α : Type} [DecidableEq κ]

def empty : Table κ α := ⟨[], by simp⟩

/-- The rows with `value` under `key`, in place of the value that was there. -/
def putRow (key : κ) (value : α) : List (κ × α) → List (κ × α)
  | [] => [(key, value)]
  | row :: rows => if row.1 = key then (key, value) :: rows else row :: putRow key value rows

theorem keys_putRow (key : κ) (value : α) (rows : List (κ × α)) :
    (putRow key value rows).map (·.1) =
      if key ∈ rows.map (·.1) then rows.map (·.1) else rows.map (·.1) ++ [key] := by
  induction rows with
  | nil => simp [putRow]
  | cons row rows ih =>
    by_cases h : row.1 = key
    · simp [putRow, h]
    · have h' : ¬ key = row.1 := fun e => h e.symm
      simp only [putRow, if_neg h, List.map_cons, ih, List.mem_cons, h', false_or]
      split <;> simp

theorem nodup_putRow (key : κ) (value : α) {rows : List (κ × α)}
    (h : (rows.map (·.1)).Nodup) : ((putRow key value rows).map (·.1)).Nodup := by
  rw [keys_putRow]
  split
  · exact h
  · next hk => exact List.nodup_append.mpr ⟨h, by simp, by
      intro a ha b hb
      simp only [List.mem_singleton] at hb
      subst hb
      exact fun e => hk (e ▸ ha)⟩

/-- The value under `key`. -/
def get? (t : Table κ α) (key : κ) : Option α :=
  (t.rows.find? (·.1 = key)).map (·.2)

/-- The value under `key`, or `default` if there is none. -/
def getD (t : Table κ α) (key : κ) (default : α) : α := (t.get? key).getD default

/-- Puts `value` under `key`. -/
def set (t : Table κ α) (key : κ) (value : α) : Table κ α :=
  ⟨putRow key value t.rows, nodup_putRow key value t.nodup⟩

/-- Takes the value under `key` away. -/
def erase (t : Table κ α) (key : κ) : Table κ α :=
  ⟨t.rows.filter (·.1 ≠ key), t.nodup.sublist ((List.filter_sublist).map _)⟩

/-- The table of the rows, a later one of the same key taking precedence. -/
def ofList (rows : List (κ × α)) : Table κ α :=
  rows.foldl (fun t row => t.set row.1 row.2) empty

end Table

end Sandwich
