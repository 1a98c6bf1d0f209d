import Mathlib.Data.Nat.Notation
import Mathlib.Logic.Function.Basic

/-!
Programs as trees of operations.

A request handler is a sequential program that talks to its surroundings
through a fixed set of operations. `Prog` is the tree of everything it can do:
at each node one operation, with one branch for every answer, the failing
answers included. Exceptions are leaves of their own, so `try`/`except` is a
function on trees and not an extra construct.

Nothing here fixes what an operation means; that is the business of the machine
a tree is run on (`Interaction.Machine`).
-/

namespace SitBank.Interaction

universe u

/-- Trees of operations `o : Op` answered by `Res o`, raising exceptions of type
`ε` and returning values of type `α`. -/
inductive Prog (Op : Type u) (Res : Op → Type) (ε α : Type) : Type u
  | ret (a : α)
  | raise (e : ε)
  | op (o : Op) (k : Except ε (Res o) → Prog Op Res ε α)

namespace Prog

variable {Op : Type u} {Res : Op → Type} {ε α β : Type}

def bind : Prog Op Res ε α → (α → Prog Op Res ε β) → Prog Op Res ε β
  | .ret a, f => f a
  | .raise e, _ => .raise e
  | .op o k, f => .op o fun r => (k r).bind f

/-- `try p except e: h e`. -/
def tryCatch : Prog Op Res ε α → (ε → Prog Op Res ε α) → Prog Op Res ε α
  | .ret a, _ => .ret a
  | .raise e, h => h e
  | .op o k, h => .op o fun r => (k r).tryCatch h

instance : Monad (Prog Op Res ε) where
  pure := .ret
  bind := bind

/-- One operation; its error answers are raised. -/
def perform (o : Op) : Prog Op Res ε (Res o) :=
  .op o fun
    | .ok a => .ret a
    | .error e => .raise e

/-- Run `f` on every element, in order. -/
def forEach {γ : Type} (f : γ → Prog Op Res ε Unit) : List γ → Prog Op Res ε Unit
  | [] => .ret ()
  | x :: xs => (f x).bind fun _ => forEach f xs

/-- Every operation of the tree satisfies `A`. -/
def All (A : Op → Prop) : Prog Op Res ε α → Prop
  | .ret _ => True
  | .raise _ => True
  | .op o k => A o ∧ ∀ r, All A (k r)

/-- Every value that the tree returns satisfies `P`. -/
def Returns (P : α → Prop) : Prog Op Res ε α → Prop
  | .ret a => P a
  | .raise _ => True
  | .op _ k => ∀ r, Returns P (k r)

theorem Returns.bind {P : α → Prop} {P' : β → Prop} {p : Prog Op Res ε α}
    {f : α → Prog Op Res ε β} (hp : Returns P p) (hf : ∀ a, P a → Returns P' (f a)) :
    Returns P' (p.bind f) := by
  induction p with
  | ret a => exact hf a hp
  | raise e => trivial
  | op o k ih => exact fun r => ih r (hp r)

namespace All

variable {A : Op → Prop}

theorem mono {B : Op → Prop} (hAB : ∀ o, A o → B o) {p : Prog Op Res ε α} (hp : All A p) :
    All B p := by
  induction p with
  | ret a => trivial
  | raise e => trivial
  | op o k ih => exact ⟨hAB o hp.1, fun r => ih r (hp.2 r)⟩

theorem bind {p : Prog Op Res ε α} {f : α → Prog Op Res ε β} (hp : All A p)
    (hf : ∀ a, All A (f a)) : All A (p.bind f) := by
  induction p with
  | ret a => exact hf a
  | raise e => trivial
  | op o k ih => exact ⟨hp.1, fun r => ih r (hp.2 r)⟩

/-- The program that follows is only run on what the first one returns. -/
theorem bind_returns {P : α → Prop} {p : Prog Op Res ε α} {f : α → Prog Op Res ε β}
    (hp : All A p) (hreturns : Returns P p) (hf : ∀ a, P a → All A (f a)) : All A (p.bind f) := by
  induction p with
  | ret a => exact hf a hreturns
  | raise e => trivial
  | op o k ih => exact ⟨hp.1, fun r => ih r (hp.2 r) (hreturns r)⟩

theorem tryCatch {p : Prog Op Res ε α} {h : ε → Prog Op Res ε α} (hp : All A p)
    (hh : ∀ e, All A (h e)) : All A (p.tryCatch h) := by
  induction p with
  | ret a => trivial
  | raise e => exact hh e
  | op o k ih => exact ⟨hp.1, fun r => ih r (hp.2 r)⟩

theorem perform {o : Op} (ho : A o) : All A (perform o : Prog Op Res ε (Res o)) := by
  refine ⟨ho, fun r => ?_⟩
  cases r <;> trivial

theorem forEach {γ : Type} {f : γ → Prog Op Res ε Unit} (hf : ∀ x, All A (f x)) (xs : List γ) :
    All A (forEach f xs) := by
  induction xs with
  | nil => trivial
  | cons x xs ih => exact (hf x).bind fun _ => ih

end All

end Prog

end SitBank.Interaction
