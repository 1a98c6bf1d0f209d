import Mathlib.Data.Nat.Notation

/-!
One row, its lock and the columns that an `UPDATE` writes: what the models of
single rows share.
-/

namespace SitBank.Interaction

/-- Another session holds the lock. -/
def waits (holder : Option ℕ) (t : ℕ) : Bool :=
  match holder with
  | some u => u ≠ t
  | none => false

/-- The lock after the end of a transaction of session `t`. -/
def released (holder : Option ℕ) (t : ℕ) : Option ℕ :=
  if holder = some t then none else holder

/-- A column is in the `UPDATE` only if the value assigned to it differs from the
one that was loaded. -/
def written {α : Type} [DecidableEq α] (loaded assigned stored : α) : α :=
  if assigned = loaded then stored else assigned

theorem written_self {α : Type} [DecidableEq α] (assigned stored : α) :
    written stored assigned stored = assigned := by
  unfold written
  split
  · next h => exact h.symm
  · rfl

end SitBank.Interaction
