import SitBank.Interaction.Prog

/-!
Interleaved execution of programs over a shared world, and the rely/guarantee
calculus for it.

Thread `t` runs the tree `prog t`. One step picks a thread and a `choice` — the
answer of everything the thread cannot decide itself — and performs the
thread's next operation; an operation that has to wait is not enabled. A
property of all interleavings is proved thread by thread: `Holds` is the
weakest precondition of a tree in which other threads may act before every
operation, constrained by `rely`, and `reach_holds` puts the threads together.

The step condition `cond` restricts the runs that are considered. It is `True`
for statements about all runs; for a program that is only correct as long as
some step does not happen in some state, it says exactly that.
-/

namespace SitBank.Interaction

universe u v

variable {Op : Type u} {Res : Op → Type} {ε α β W C : Type}

/-- What one operation of thread `t` does: `none` means that it has to wait. -/
abbrev Exec (Op : Type u) (Res : Op → Type) (ε W C : Type) :=
  ℕ → (o : Op) → C → W → Option (Except ε (Res o) × W)

/-- A world together with what every thread still has to do. -/
structure Conf (Op : Type u) (Res : Op → Type) (ε α W : Type) where
  world : W
  prog : ℕ → Prog Op Res ε α

section Steps

variable (exec : Exec Op Res ε W C)

/-- One operation of thread `t`. -/
def step (x : Conf Op Res ε α W) (t : ℕ) (c : C) : Option (Conf Op Res ε α W) :=
  match x.prog t with
  | .ret _ => none
  | .raise _ => none
  | .op o k => (exec t o c x.world).map fun r =>
      ⟨r.2, Function.update x.prog t (k r.1)⟩

/-- A schedule, performed from left to right. -/
def run (x : Conf Op Res ε α W) : List (ℕ × C) → Option (Conf Op Res ε α W)
  | [] => some x
  | tc :: l => (step exec x tc.1 tc.2).bind fun y => run y l

/-- The next operation of thread `t` meets the condition. -/
def Meets (cond : ℕ → Op → W → Prop) (x : Conf Op Res ε α W) (t : ℕ) : Prop :=
  match x.prog t with
  | .ret _ => True
  | .raise _ => True
  | .op o _ => cond t o x.world

/-- The configurations reached from `x` by steps that all meet `cond`. -/
inductive Reach (cond : ℕ → Op → W → Prop) (x : Conf Op Res ε α W) :
    Conf Op Res ε α W → Prop
  | refl : Reach cond x x
  | step {y z : Conf Op Res ε α W} {t : ℕ} {c : C} : Reach cond x y →
      Meets cond y t → step exec y t c = some z → Reach cond x z

section Visited

variable {exec}

theorem Reach.mono {cond cond' : ℕ → Op → W → Prop} (hc : ∀ t o w, cond t o w → cond' t o w)
    {x y : Conf Op Res ε α W} (h : Reach exec cond x y) : Reach exec cond' x y := by
  induction h with
  | refl => exact .refl
  | step _ hm hs ih =>
      refine .step ih ?_ hs
      unfold Meets at hm ⊢
      split
      · trivial
      · trivial
      · next hk =>
          rw [hk] at hm
          exact hc _ _ _ hm

theorem Reach.trans {cond : ℕ → Op → W → Prop} {x y z : Conf Op Res ε α W}
    (h : Reach exec cond x y) (h' : Reach exec cond y z) : Reach exec cond x z := by
  induction h' with
  | refl => exact h
  | step _ hm hs ih => exact .step ih hm hs

theorem meets_true (x : Conf Op Res ε α W) (t : ℕ) : Meets (fun _ _ _ => True) x t := by
  unfold Meets
  split <;> trivial

variable (exec) in
/-- On the way from `x` to `y`, thread `t` was to perform `o` in the world `w`. -/
def Visited (x y : Conf Op Res ε α W) (t : ℕ) (o : Op) (w : W) : Prop :=
  ∃ z k, Reach exec (fun _ _ _ => True) x z ∧ Reach exec (fun _ _ _ => True) z y ∧
    z.world = w ∧ z.prog t = .op o k

theorem reach_visited {x y : Conf Op Res ε α W} (h : Reach exec (fun _ _ _ => True) x y) :
    Reach exec (Visited exec x y) x y := by
  induction h with
  | refl => exact .refl
  | @step y z t c hr hm hs ih =>
      have hyz : Reach exec (fun _ _ _ => True) y z := .step .refl hm hs
      refine .step (ih.mono ?_) ?_ hs
      · rintro u o w ⟨m, k, hxm, hmy, hw, hk⟩
        exact ⟨m, k, hxm, hmy.trans hyz, hw, hk⟩
      · unfold Meets
        split
        · trivial
        · trivial
        · next hk => exact ⟨y, _, hr, hyz, rfl, hk⟩

end Visited

theorem reach_of_run {x y z : Conf Op Res ε α W} {l : List (ℕ × C)}
    (hy : Reach exec (fun _ _ _ => True) x y) (h : run exec y l = some z) :
    Reach exec (fun _ _ _ => True) x z := by
  induction l generalizing y with
  | nil =>
      cases h
      exact hy
  | cons tc l ih =>
      obtain ⟨m, hm, hl⟩ := Option.bind_eq_some_iff.mp h
      exact ih (.step hy (meets_true y _) hm) hl

/-- A schedule whose steps all pass the test `ok`. -/
def runChecked (ok : ℕ → Op → W → Bool) (x : Conf Op Res ε α W) :
    List (ℕ × C) → Option (Conf Op Res ε α W)
  | [] => some x
  | tc :: l =>
      match x.prog tc.1 with
      | .op o _ =>
          if ok tc.1 o x.world then (step exec x tc.1 tc.2).bind fun y => runChecked ok y l
          else none
      | _ => none

theorem reach_of_runChecked {ok : ℕ → Op → W → Bool} {cond : ℕ → Op → W → Prop}
    (hok : ∀ t o w, ok t o w = true → cond t o w) {x y z : Conf Op Res ε α W}
    {l : List (ℕ × C)} (hy : Reach exec cond x y) (h : runChecked exec ok y l = some z) :
    Reach exec cond x z := by
  induction l generalizing y with
  | nil =>
      cases h
      exact hy
  | cons tc l ih =>
      unfold runChecked at h
      split at h
      · next o k hk =>
          split at h
          · next hpass =>
              obtain ⟨m, hm, hl⟩ := Option.bind_eq_some_iff.mp h
              refine ih (.step hy ?_ hm) hl
              rw [Meets, hk]
              exact hok _ _ _ hpass
          · cases h
      · cases h

theorem step_cases {x y : Conf Op Res ε α W} {t : ℕ} {c : C}
    (h : step exec x t c = some y) :
    ∃ o k r w, x.prog t = .op o k ∧ exec t o c x.world = some (r, w) ∧
      y = ⟨w, Function.update x.prog t (k r)⟩ := by
  unfold step at h
  split at h
  · cases h
  · cases h
  · next o k hk =>
      obtain ⟨⟨r, w⟩, hr, hy⟩ := Option.map_eq_some_iff.mp h
      exact ⟨o, k, r, w, hk, hr, hy.symm⟩

/-- What every operation of a kind `A` keeps, in runs whose programs perform no
other operations. -/
theorem reach_keeps {A : Op → Prop} {I : W → Prop} {cond : ℕ → Op → W → Prop}
    (hop : ∀ t o c r w w', A o → cond t o w → exec t o c w = some (r, w') → I w → I w')
    {x y : Conf Op Res ε α W} (hA : ∀ t, Prog.All A (x.prog t)) (hI : I x.world)
    (h : Reach exec cond x y) : I y.world ∧ ∀ t, Prog.All A (y.prog t) := by
  induction h with
  | refl => exact ⟨hI, hA⟩
  | @step y z t c _ hm hs ih =>
      obtain ⟨hI, hA⟩ := ih
      obtain ⟨o, k, r, w, hk, he, rfl⟩ := step_cases exec hs
      have hop' := hA t
      rw [hk] at hop'
      have hc : cond t o y.world := by simpa [Meets, hk] using hm
      refine ⟨hop t o c r _ w hop'.1 hc he hI, fun u => ?_⟩
      by_cases hu : u = t
      · subst hu
        simpa using hop'.2 r
      · dsimp only
        rw [Function.update_of_ne hu]
        exact hA u

end Steps

/-- The obligations of a rely/guarantee proof. `inv` is known at every step and
has to be kept by every step. -/
structure Rules (Op : Type u) (W : Type) where
  rely : ℕ → W → W → Prop
  guar : ℕ → W → W → Prop
  inv : W → Prop
  cond : ℕ → Op → W → Prop

namespace Rules

/-- The rules fit together: what a thread relies on can be extended step by
step by what the other threads guarantee. -/
structure Sound (ρ : Rules Op W) : Prop where
  refl : ∀ t w, ρ.rely t w w
  trans : ∀ t w₁ w₂ w₃, ρ.rely t w₁ w₂ → ρ.rely t w₂ w₃ → ρ.rely t w₁ w₃
  others : ∀ t u w w', u ≠ t → ρ.inv w → ρ.guar u w w' → ρ.rely t w w'

end Rules

section Calculus

variable (exec : Exec Op Res ε W C) (ρ : Rules Op W) (t : ℕ)

/-- From `w`, thread `t` running the tree meets its guarantee at every
operation and ends in `Q`, whatever the other threads do in between. -/
def Holds : Prog Op Res ε α → (Except ε α → W → Prop) → W → Prop
  | .ret a, Q, w => Q (.ok a) w
  | .raise e, Q, w => Q (.error e) w
  | .op o k, Q, w => ∀ w₁, ρ.rely t w w₁ → ρ.inv w₁ → ρ.cond t o w₁ →
      ∀ c r w₂, exec t o c w₁ = some (r, w₂) →
        ρ.guar t w₁ w₂ ∧ ρ.inv w₂ ∧ Holds (k r) Q w₂

variable {exec ρ t}

theorem Holds.mono {p : Prog Op Res ε α} {Q Q' : Except ε α → W → Prop} {w : W}
    (h : Holds exec ρ t p Q w) (hQ : ∀ r w', Q r w' → Q' r w') :
    Holds exec ρ t p Q' w := by
  induction p generalizing w with
  | ret a => exact hQ _ _ h
  | raise e => exact hQ _ _ h
  | op o k ih =>
      intro w₁ hr hi hc c r w₂ he
      obtain ⟨hg, hi', hk⟩ := h w₁ hr hi hc c r w₂ he
      exact ⟨hg, hi', ih r hk⟩

theorem Holds.and {p : Prog Op Res ε α} {Q Q' : Except ε α → W → Prop} {w : W}
    (h : Holds exec ρ t p Q w) (h' : Holds exec ρ t p Q' w) :
    Holds exec ρ t p (fun r w' => Q r w' ∧ Q' r w') w := by
  induction p generalizing w with
  | ret a => exact ⟨h, h'⟩
  | raise e => exact ⟨h, h'⟩
  | op o k ih =>
      intro w₁ hr hi hc c r w₂ he
      obtain ⟨hg, hi', hk⟩ := h w₁ hr hi hc c r w₂ he
      exact ⟨hg, hi', ih r hk (h' w₁ hr hi hc c r w₂ he).2.2⟩

/-- The invariant holds wherever a program can get to. -/
theorem Holds.with_inv {p : Prog Op Res ε α} {Q : Except ε α → W → Prop} {w : W}
    (h : Holds exec ρ t p Q w) (hi : ρ.inv w) :
    Holds exec ρ t p (fun r w' => ρ.inv w' ∧ Q r w') w := by
  induction p generalizing w with
  | ret a => exact ⟨hi, h⟩
  | raise e => exact ⟨hi, h⟩
  | op o k ih =>
      intro w₁ hr hi₁ hc c r w₂ he
      obtain ⟨hg, hi₂, hk⟩ := h w₁ hr hi₁ hc c r w₂ he
      exact ⟨hg, hi₂, ih r hk hi₂⟩

/-- What neither the other threads nor a step of this one can invalidate. -/
theorem Holds.with_stable {I : W → Prop} (hrely : ∀ w w', I w → ρ.rely t w w' → I w')
    (hguar : ∀ w w', I w → ρ.guar t w w' → I w') {p : Prog Op Res ε α}
    {Q : Except ε α → W → Prop} {w : W} (h : Holds exec ρ t p Q w) (hw : I w) :
    Holds exec ρ t p (fun r w' => I w' ∧ Q r w') w := by
  induction p generalizing w with
  | ret a => exact ⟨hw, h⟩
  | raise e => exact ⟨hw, h⟩
  | op o k ih =>
      intro w₁ hr hi hc c r w₂ he
      obtain ⟨hg, hi', hk⟩ := h w₁ hr hi hc c r w₂ he
      exact ⟨hg, hi', ih r hk (hguar _ _ (hrely _ _ hw hr) hg)⟩

theorem Holds.bind {p : Prog Op Res ε α} {f : α → Prog Op Res ε β}
    {M : Except ε α → W → Prop} {Q : Except ε β → W → Prop} {w : W}
    (hp : Holds exec ρ t p M w)
    (hok : ∀ a w', M (.ok a) w' → Holds exec ρ t (f a) Q w')
    (herr : ∀ e w', M (.error e) w' → Q (.error e) w') :
    Holds exec ρ t (p.bind f) Q w := by
  induction p generalizing w with
  | ret a => exact hok a w hp
  | raise e => exact herr e w hp
  | op o k ih =>
      intro w₁ hr hi hc c r w₂ he
      obtain ⟨hg, hi', hk⟩ := hp w₁ hr hi hc c r w₂ he
      exact ⟨hg, hi', ih r hk⟩

theorem Holds.tryCatch {p : Prog Op Res ε α} {h : ε → Prog Op Res ε α}
    {M Q : Except ε α → W → Prop} {w : W}
    (hp : Holds exec ρ t p M w)
    (hok : ∀ a w', M (.ok a) w' → Q (.ok a) w')
    (herr : ∀ e w', M (.error e) w' → Holds exec ρ t (h e) Q w') :
    Holds exec ρ t (p.tryCatch h) Q w := by
  induction p generalizing w with
  | ret a => exact hok a w hp
  | raise e => exact herr e w hp
  | op o k ih =>
      intro w₁ hr hi hc c r w₂ he
      obtain ⟨hg, hi', hk⟩ := hp w₁ hr hi hc c r w₂ he
      exact ⟨hg, hi', ih r hk⟩

/-- The rule for one operation. -/
theorem Holds.perform {o : Op} {Q : Except ε (Res o) → W → Prop} {w : W}
    (h : ∀ w₁, ρ.rely t w w₁ → ρ.inv w₁ → ρ.cond t o w₁ →
      ∀ c r w₂, exec t o c w₁ = some (r, w₂) →
        ρ.guar t w₁ w₂ ∧ ρ.inv w₂ ∧ Q r w₂) :
    Holds exec ρ t (Prog.perform o) Q w := by
  intro w₁ hr hi hc c r w₂ he
  obtain ⟨hg, hi', hQ⟩ := h w₁ hr hi hc c r w₂ he
  refine ⟨hg, hi', ?_⟩
  cases r <;> exact hQ

/-- A program all of whose operations keep what the other threads keep. -/
theorem Holds.of_all {A : Op → Prop} {I : W → Prop} (hrely : ∀ w w', I w → ρ.rely t w w' → I w')
    (hop : ∀ o c r w w', A o → I w → ρ.inv w → ρ.cond t o w → exec t o c w = some (r, w') →
      ρ.guar t w w' ∧ ρ.inv w' ∧ I w')
    {p : Prog Op Res ε α} (hp : Prog.All A p) {w : W} (hw : I w) :
    Holds exec ρ t p (fun _ w' => I w') w := by
  induction p generalizing w with
  | ret a => exact hw
  | raise e => exact hw
  | op o k ih =>
      intro w₁ hr hi hc c r w₂ he
      obtain ⟨hg, hi', hI⟩ := hop o c r w₁ w₂ hp.1 (hrely _ _ hw hr) hi hc he
      exact ⟨hg, hi', ih r (hp.2 r) hI⟩

/-- The other threads may act before the next operation, and after the last one if
the postcondition is theirs to keep. -/
theorem Holds.of_rely_stable (hρ : ρ.Sound) {Q : Except ε α → W → Prop}
    (hQ : ∀ r w w', Q r w → ρ.rely t w w' → Q r w') {p : Prog Op Res ε α} {w w' : W}
    (h : Holds exec ρ t p Q w) (hr : ρ.rely t w w') : Holds exec ρ t p Q w' := by
  cases p with
  | ret a => exact hQ _ _ _ h hr
  | raise e => exact hQ _ _ _ h hr
  | op o k =>
      intro w₁ hr' hi hc c r w₂ he
      exact h w₁ (hρ.trans t _ _ _ hr hr') hi hc c r w₂ he

theorem Holds.of_rely (hρ : ρ.Sound) {p : Prog Op Res ε α} {w w' : W}
    (h : Holds exec ρ t p (fun _ _ => True) w) (hr : ρ.rely t w w') :
    Holds exec ρ t p (fun _ _ => True) w' :=
  h.of_rely_stable hρ (fun _ _ _ _ _ => trivial) hr

end Calculus

section Soundness

variable {exec : Exec Op Res ε W C} {ρ : Rules Op W}

/-- Every thread still meets its obligations. -/
def AllHold (exec : Exec Op Res ε W C) (ρ : Rules Op W)
    (x : Conf Op Res ε α W) : Prop :=
  ρ.inv x.world ∧ ∀ t, Holds exec ρ t (x.prog t) (fun _ _ => True) x.world

theorem step_holds (hρ : ρ.Sound) {x y : Conf Op Res ε α W} {t : ℕ} {c : C}
    (hx : AllHold exec ρ x) (hm : Meets ρ.cond x t) (h : step exec x t c = some y) :
    ρ.guar t x.world y.world ∧ AllHold exec ρ y := by
  obtain ⟨o, k, r, w, hk, he, rfl⟩ := step_cases exec h
  have hc : ρ.cond t o x.world := by simpa [Meets, hk] using hm
  have ht := hx.2 t
  rw [hk] at ht
  obtain ⟨hg, hi, hw⟩ := ht x.world (hρ.refl t _) hx.1 hc c r w he
  refine ⟨hg, hi, fun t' => ?_⟩
  by_cases htt : t' = t
  · subst htt
    simpa using hw
  · dsimp only
    rw [Function.update_of_ne htt]
    exact (hx.2 t').of_rely hρ (hρ.others t' t _ _ (Ne.symm htt) hx.1 hg)

/-- Soundness: along every run whose steps meet the condition, every thread
keeps meeting its obligations. -/
theorem reach_holds (hρ : ρ.Sound) {x y : Conf Op Res ε α W}
    (hx : AllHold exec ρ x) (h : Reach exec ρ.cond x y) : AllHold exec ρ y := by
  induction h with
  | refl => exact hx
  | step _ hm hs ih => exact (step_holds hρ ih hm hs).2

/-- Every thread still meets its obligations, and ends in its postcondition. -/
def AllEnd (exec : Exec Op Res ε W C) (ρ : Rules Op W) (Q : ℕ → Except ε α → W → Prop)
    (x : Conf Op Res ε α W) : Prop :=
  ρ.inv x.world ∧ ∀ t, Holds exec ρ t (x.prog t) (Q t) x.world

/-- Soundness, for postconditions that the other threads keep. -/
theorem reach_ends (hρ : ρ.Sound) {Q : ℕ → Except ε α → W → Prop}
    (hQ : ∀ t r w w', Q t r w → ρ.rely t w w' → Q t r w') {x y : Conf Op Res ε α W}
    (hx : AllEnd exec ρ Q x) (h : Reach exec ρ.cond x y) : AllEnd exec ρ Q y := by
  induction h with
  | refl => exact hx
  | @step y z t c _ hm hs ih =>
      obtain ⟨o, k, r, w, hk, he, rfl⟩ := step_cases exec hs
      have hc : ρ.cond t o y.world := by simpa [Meets, hk] using hm
      have ht := ih.2 t
      rw [hk] at ht
      obtain ⟨hg, hi, hw⟩ := ht y.world (hρ.refl t _) ih.1 hc c r w he
      refine ⟨hi, fun t' => ?_⟩
      by_cases htt : t' = t
      · subst htt
        simpa using hw
      · dsimp only
        rw [Function.update_of_ne htt]
        exact (ih.2 t').of_rely_stable hρ (hQ t') (hρ.others t' t _ _ (Ne.symm htt) ih.1 hg)

end Soundness

end SitBank.Interaction
