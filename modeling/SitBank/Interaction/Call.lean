import Mathlib.Data.Nat.Notation

/-!
Calls that run one at a time.

Where only the order of whole requests matters, a function of the code is a call
on the state: it returns a value or raises an exception, and what it has changed
before an exception stays changed. `Ends` says how a call ends; its rules follow
the statements of the code.
-/

namespace SitBank.Interaction

variable {σ ε α β : Type}

/-- A call on states `σ`. -/
abbrev Call (σ ε α : Type) := EStateM ε σ α

/-- Stop with an exception where the condition holds. -/
def raiseIf (c : Bool) (e : ε) : Call σ ε Unit := if c then throw e else pure ()

/-- The call, made in state `s`, ends in a state and with a value or an exception
that satisfy `Q`. -/
def Ends (m : Call σ ε α) (Q : Except ε α → σ → Prop) (s : σ) : Prop :=
  match m s with
  | .ok a s' => Q (.ok a) s'
  | .error e s' => Q (.error e) s'

theorem Ends.mono {m : Call σ ε α} {M Q : Except ε α → σ → Prop} {s : σ} (h : Ends m M s)
    (himp : ∀ r s', M r s' → Q r s') : Ends m Q s := by
  unfold Ends at *
  split at h
  · exact himp _ _ h
  · exact himp _ _ h

theorem Ends.pure {a : α} {Q : Except ε α → σ → Prop} {s : σ} (h : Q (.ok a) s) :
    Ends (pure a : Call σ ε α) Q s := h

theorem Ends.throw {e : ε} {Q : Except ε α → σ → Prop} {s : σ} (h : Q (.error e) s) :
    Ends (throw e : Call σ ε α) Q s := h

theorem Ends.bind {m : Call σ ε α} {f : α → Call σ ε β} {M : Except ε α → σ → Prop}
    {Q : Except ε β → σ → Prop} {s : σ} (hm : Ends m M s)
    (hok : ∀ a s', M (.ok a) s' → Ends (f a) Q s')
    (herr : ∀ e s', M (.error e) s' → Q (.error e) s') : Ends (m >>= f) Q s := by
  show Ends (EStateM.bind m f) Q s
  unfold Ends EStateM.bind at *
  cases hr : m s with
  | ok a s' =>
      rw [hr] at hm
      exact hok a s' hm
  | error e s' =>
      rw [hr] at hm
      exact herr e s' hm

/-- A call that is known to return. -/
theorem Ends.bind_ok_iff {m : Call σ ε α} {f : α → Call σ ε β} {Q : Except ε β → σ → Prop}
    {s s' : σ} {a : α} (hm : m s = .ok a s') : Ends (m >>= f) Q s ↔ Ends (f a) Q s' := by
  show Ends (EStateM.bind m f) Q s ↔ _
  unfold Ends EStateM.bind
  rw [hm]

/-- A call that is known to raise. -/
theorem Ends.bind_error_iff {m : Call σ ε α} {f : α → Call σ ε β} {Q : Except ε β → σ → Prop}
    {s s' : σ} {e : ε} (hm : m s = .error e s') : Ends (m >>= f) Q s ↔ Q (.error e) s' := by
  show Ends (EStateM.bind m f) Q s ↔ _
  unfold Ends EStateM.bind
  rw [hm]

theorem Ends.bind_ok {m : Call σ ε α} {f : α → Call σ ε β} {Q : Except ε β → σ → Prop}
    {s s' : σ} {a : α} (hm : m s = .ok a s') (hf : Ends (f a) Q s') : Ends (m >>= f) Q s :=
  (Ends.bind_ok_iff hm).mpr hf

theorem Ends.bind_error {m : Call σ ε α} {f : α → Call σ ε β} {Q : Except ε β → σ → Prop}
    {s s' : σ} {e : ε} (hm : m s = .error e s') (h : Q (.error e) s') : Ends (m >>= f) Q s :=
  (Ends.bind_error_iff hm).mpr h

theorem Ends.get_bind {f : σ → Call σ ε β} {Q : Except ε β → σ → Prop} {s : σ}
    (h : Ends (f s) Q s) : Ends (get >>= f) Q s := h

theorem run_get_bind {f : σ → Call σ ε β} {s : σ} : (get >>= f) s = f s s := rfl

theorem Ends.modify_bind {g : σ → σ} {f : Unit → Call σ ε β} {Q : Except ε β → σ → Prop} {s : σ}
    (h : Ends (f ()) Q (g s)) : Ends (modify g >>= f) Q s := h

theorem Ends.set_bind {s₁ : σ} {f : PUnit → Call σ ε β} {Q : Except ε β → σ → Prop} {s : σ}
    (h : Ends (f ⟨⟩) Q s₁) : Ends (set s₁ >>= f) Q s := h

theorem Ends.raiseIf_bind {c : Bool} {e : ε} {f : Unit → Call σ ε β}
    {Q : Except ε β → σ → Prop} {s : σ} (herr : c = true → Q (.error e) s)
    (hok : c = false → Ends (f ()) Q s) : Ends (raiseIf c e >>= f) Q s := by
  cases c with
  | true => exact herr rfl
  | false => exact hok rfl

theorem not_of_negated {b : Bool} (h : (!b) = true) : ¬b = true := by
  cases b with
  | true => cases h
  | false => exact Bool.false_ne_true

theorem of_negated {b : Bool} (h : (!b) = false) : b = true := by
  cases b with
  | true => rfl
  | false => cases h

theorem Ends.raiseIf {c : Bool} {e : ε} {Q : Except ε Unit → σ → Prop} {s : σ}
    (herr : c = true → Q (.error e) s) (hok : c = false → Q (.ok ()) s) :
    Ends (raiseIf c e) Q s := by
  cases c with
  | true => exact herr rfl
  | false => exact hok rfl

theorem Ends.discard {m : Call σ ε α} {P : σ → Prop} {s : σ} (h : Ends m (fun _ s' => P s') s) :
    Ends (Functor.discard m) (fun _ s' => P s') s := by
  have hmap : Functor.discard m = m >>= fun _ => (Pure.pure () : Call σ ε Unit) := rfl
  rw [hmap]
  exact h.bind (fun _ _ hP => hP) fun _ _ hP => hP

/-- What a computation without a state returned, step by step. -/
theorem returned_bind_iff {r : Except ε α} {f : α → Except ε β} {b : β} :
    r >>= f = .ok b ↔ ∃ a, r = .ok a ∧ f a = .ok b := by
  cases r with
  | ok a =>
      constructor
      · exact fun h => ⟨a, rfl, h⟩
      · rintro ⟨_, ⟨rfl⟩, h⟩
        exact h
  | error e =>
      constructor
      · exact nofun
      · rintro ⟨_, h, -⟩
        cases h

theorem Ends.ofExcept_bind {r : Except ε α} {f : α → Call σ ε β} {Q : Except ε β → σ → Prop} {s : σ}
    (herr : ∀ e, r = .error e → Q (.error e) s) (hok : ∀ a, r = .ok a → Ends (f a) Q s) :
    Ends (ofExcept r >>= f) Q s := by
  cases r with
  | ok a => exact hok a rfl
  | error e => exact herr e rfl

/-- A call ends in one way. -/
theorem Ends.and {m : Call σ ε α} {P Q : Except ε α → σ → Prop} {s : σ} (hP : Ends m P s)
    (hQ : Ends m Q s) : Ends m (fun r s' => P r s' ∧ Q r s') s := by
  unfold Ends at *
  cases hr : m s with
  | ok a s' =>
      rw [hr] at hP hQ
      exact ⟨hP, hQ⟩
  | error e s' =>
      rw [hr] at hP hQ
      exact ⟨hP, hQ⟩

theorem Ends.exists {m : Call σ ε α} {Q : Except ε α → σ → Prop} {s : σ} (h : Ends m Q s) :
    ∃ r s', Q r s' := by
  unfold Ends at h
  split at h
  · exact ⟨_, _, h⟩
  · exact ⟨_, _, h⟩

/-- The end of a call that returned. -/
theorem Ends.of_ok {m : Call σ ε α} {Q : Except ε α → σ → Prop} {s s' : σ} {a : α}
    (h : Ends m Q s) (hm : m s = .ok a s') : Q (.ok a) s' := by
  unfold Ends at h
  rw [hm] at h
  exact h

/-- A call with one end. -/
theorem Ends.eq_ok {m : Call σ ε α} {s s' : σ} {a : α}
    (h : Ends m (fun r s₁ => r = .ok a ∧ s₁ = s') s) : m s = .ok a s' := by
  unfold Ends at h
  split at h
  · next hm =>
      obtain ⟨⟨rfl⟩, rfl⟩ := h
      exact hm
  · exact nomatch h.1

/-- The state after a call, however it ended. -/
def after (m : Call σ ε α) (s : σ) : σ :=
  match m s with
  | .ok _ s' => s'
  | .error _ s' => s'

theorem Ends.after {m : Call σ ε α} {P : σ → Prop} {s : σ} (h : Ends m (fun _ s' => P s') s) :
    P (after m s) := by
  unfold Ends at h
  unfold Interaction.after
  split at h <;> exact h

theorem Ends.tryCatch {m : Call σ ε α} {f : ε → Call σ ε α} {M Q : Except ε α → σ → Prop} {s : σ}
    (hm : Ends m M s) (hok : ∀ a s', M (.ok a) s' → Q (.ok a) s')
    (herr : ∀ e s', M (.error e) s' → Ends (f e) Q s') :
    Ends (MonadExceptOf.tryCatch m f) Q s := by
  show Ends (EStateM.tryCatch m f) Q s
  unfold Ends EStateM.tryCatch at *
  cases hr : m s with
  | ok a s' =>
      rw [hr] at hm
      exact hok a s' hm
  | error e s' =>
      rw [hr] at hm
      exact herr e s' hm

/-- Nothing is caught from a call that returns. -/
theorem tryCatch_ok {m : Call σ ε α} {s s' : σ} {a : α} (hm : m s = .ok a s')
    (f : ε → Call σ ε α) : MonadExceptOf.tryCatch m f s = .ok a s' := by
  show EStateM.tryCatch m f s = _
  unfold EStateM.tryCatch
  rw [hm]

/-- What is raised is caught. -/
theorem tryCatch_error {m : Call σ ε α} {s s' : σ} {e : ε} (hm : m s = .error e s')
    (f : ε → Call σ ε α) : MonadExceptOf.tryCatch m f s = f e s' := by
  show EStateM.tryCatch m f s = _
  unfold EStateM.tryCatch
  rw [hm]
  rfl

end SitBank.Interaction
