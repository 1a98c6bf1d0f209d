import SitBank.Interaction.Machine

/-!
One program on its own, and auxiliary state.

A statement about failures is about a single run: which operation failed, and
where the program was. `ghost` adds state that records this and influences
nothing, `eval` is a complete run with one choice per operation, and `Solo` the
weakest precondition of a program that nobody interferes with. What was proved
of a program among others holds of it alone (`Holds.solo`).
-/

namespace SitBank.Interaction

universe u

variable {Op : Type u} {Res : Op → Type} {ε α W G C : Type}

/-- `exec` with auxiliary state: `note` records an operation with its answer. -/
def ghost (exec : Exec Op Res ε W C) (note : (o : Op) → Except ε (Res o) → G → G) :
    Exec Op Res ε (W × G) C :=
  fun t o c x => (exec t o c x.1).map fun r => (r.1, r.2, note o r.1 x.2)

/-- A complete run of thread `t` on its own. -/
def eval (exec : Exec Op Res ε W C) (t : ℕ) :
    Prog Op Res ε α → List C → W → Option (Except ε α × W)
  | .ret a, [], w => some (.ok a, w)
  | .raise e, [], w => some (.error e, w)
  | .op o k, c :: cs, w => (exec t o c w).bind fun r => eval exec t (k r.1) cs r.2
  | _, _, _ => none

/-- Nobody interferes, and nothing is promised. -/
def alone : Rules Op W where
  rely _ w w' := w = w'
  guar _ _ _ := True
  inv _ := True
  cond _ _ _ := True

abbrev Solo (exec : Exec Op Res ε W C) (t : ℕ) (p : Prog Op Res ε α)
    (Q : Except ε α → W → Prop) (w : W) : Prop :=
  Holds exec alone t p Q w

section Solo

variable {exec : Exec Op Res ε W C} {note : (o : Op) → Except ε (Res o) → G → G} {t : ℕ}

/-- The rule for one operation and what follows it. -/
theorem Solo.op {o : Op} {k : Except ε (Res o) → Prog Op Res ε α} {Q : Except ε α → W → Prop}
    {w : W} (h : ∀ c r w', exec t o c w = some (r, w') → Solo exec t (k r) Q w') :
    Solo exec t (.op o k) Q w := by
  rintro _ rfl _ _ c r w' he
  exact ⟨trivial, trivial, h c r w' he⟩

theorem Solo.of_forall {p : Prog Op Res ε α} {Q : Except ε α → W → Prop} (h : ∀ r w, Q r w)
    (w : W) : Solo exec t p Q w := by
  induction p generalizing w with
  | ret a => exact h _ _
  | raise e => exact h _ _
  | op o k ih => exact Solo.op fun _ r w' _ => ih r w'

theorem Solo.eval {p : Prog Op Res ε α} {Q : Except ε α → W → Prop} {w w' : W} {cs : List C}
    {r : Except ε α} (h : Solo exec t p Q w) (he : eval exec t p cs w = some (r, w')) :
    Q r w' := by
  induction p generalizing w cs with
  | ret a =>
      cases cs with
      | nil =>
          cases he
          exact h
      | cons c cs => cases he
  | raise e =>
      cases cs with
      | nil =>
          cases he
          exact h
      | cons c cs => cases he
  | op o k ih =>
      cases cs with
      | nil => cases he
      | cons c cs =>
          obtain ⟨⟨r₁, w₁⟩, h₁, hrest⟩ := Option.bind_eq_some_iff.mp he
          exact ih r₁ (h w rfl trivial trivial c r₁ w₁ h₁).2.2 hrest

theorem Solo.perform {o : Op} {Q : Except ε (Res o) → W × G → Prop} {w : W} {g : G}
    (h : ∀ c r w', exec t o c w = some (r, w') → Q r (w', note o r g)) :
    Solo (ghost exec note) t (Prog.perform o) Q (w, g) := by
  refine Holds.perform fun x hx _ _ c r x' he => ⟨trivial, trivial, ?_⟩
  subst hx
  obtain ⟨⟨r₁, w₁⟩, h₁, heq⟩ := Option.map_eq_some_iff.mp he
  cases heq
  exact h c r₁ w₁ h₁

/-- What holds of a program among others holds of it alone, whatever is recorded. -/
theorem Holds.solo {ρ : Rules Op W} (hrely : ∀ w, ρ.rely t w w) (hcond : ∀ o w, ρ.cond t o w)
    {p : Prog Op Res ε α} {Q : Except ε α → W → Prop} {w : W} {g : G}
    (h : Holds exec ρ t p Q w) (hi : ρ.inv w) :
    Solo (ghost exec note) t p (fun r x => ρ.inv x.1 ∧ Q r x.1) (w, g) := by
  induction p generalizing w g with
  | ret a => exact ⟨hi, h⟩
  | raise e => exact ⟨hi, h⟩
  | op o k ih =>
      intro x hx _ _ c r x' he
      subst hx
      obtain ⟨⟨r₁, w₁⟩, h₁, heq⟩ := Option.map_eq_some_iff.mp he
      cases heq
      obtain ⟨_, hi₁, hk⟩ := h w (hrely w) hi (hcond o w) c r₁ w₁ h₁
      exact ⟨trivial, trivial, ih r₁ hk hi₁⟩

end Solo

end SitBank.Interaction
