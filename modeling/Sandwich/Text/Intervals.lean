/-! Sets of characters, given by the points where membership changes, and maps
of characters, given by the points where the value changes. -/

namespace Sandwich.Text

/-- Whether an odd number of the points do not exceed `n`. -/
def within (points : List Nat) (n : Nat) : Bool := points.countP (· ≤ n) % 2 == 1

/-- The value beside the last point that does not exceed `n`, the points being in order. -/
def valueAt {α : Type} (start : α) (changes : List (Nat × α)) (n : Nat) : α :=
  match changes with
  | [] => start
  | (point, value) :: rest => if n < point then start else valueAt value rest n

end Sandwich.Text
