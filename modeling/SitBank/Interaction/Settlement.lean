import Mathlib.Data.Nat.Notation

/-!
Stores with an open transaction.

What a transaction has changed is committed as a whole or lost as a whole. `Settles` says this
of a step after which nothing is open any more. Whatever settles after that changes nothing
that is committed.
-/

namespace SitBank.Interaction

/-- What is committed, and what the transaction sees. -/
structure Transactional (W R : Type) where
  committed : W → R
  seen : W → R

namespace Transactional

variable {W R : Type} {T : Transactional W R} {w w' : W}

structure Settles (T : Transactional W R) (w w' : W) : Prop where
  closed : T.seen w' = T.committed w'
  whole : T.committed w' = T.seen w ∨ T.committed w' = T.committed w

theorem Settles.committed_eq (h : T.Settles w w') (hclosed : T.seen w = T.committed w) :
    T.committed w' = T.committed w :=
  h.whole.elim (fun hseen => hseen.trans hclosed) id

end Transactional

end SitBank.Interaction
