import SitBank.Orm.Hoare

/-!
Programs that only write in a certain way.

`N` says what an instance may look like when its session has changed it. A
program all of whose assignments establish and keep `N` (`Op.writes`) has
nothing else to commit (`All.changes`), whatever it reads, and however often it
commits or rolls back in between.
-/

namespace SitBank.Orm

open SitBank.Interaction

variable {S : Schema} {A α : Type}

/-- Every row that thread `t` has changed has an instance, and it satisfies `N`. -/
def Changes (N : ∀ k, Entry S k → Prop) (t : ℕ) (w : World S) : Prop :=
  ∀ k, k ∈ (w.sess t).dirty → ∃ e, (w.sess t).cache k = some e ∧ N k e

/-- The operation establishes `N` for an unchanged instance, and keeps it. -/
def Op.writes (N : ∀ k, Entry S k → Prop) : Op S A → Prop
  | .assign k f => (∀ c, N k ⟨some c, f c⟩) ∧ ∀ e, N k e → N k { e with current := f e.current }
  | .addRow k r => N k ⟨none, r⟩
  | _ => True

variable {N : ∀ k, Entry S k → Prop} {σ : StepSpec S A} {t : ℕ} {w w' : World S}

theorem Clean.changes (h : Clean t w) : Changes N t w := by
  intro k hk
  rw [h] at hk
  cases hk

theorem Changes.sess (h : Changes N t w) (hs : w'.sess t = w.sess t) : Changes N t w' := by
  intro k hk
  rw [hs] at hk ⊢
  exact h k hk

theorem Changes.grows (h : Changes N t w) (hg : Grows σ t w w') : Changes N t w' := by
  intro k hk
  rw [hg.dirty] at hk
  obtain ⟨e, he, hN⟩ := h k hk
  exact ⟨e, hg.keep k e he, hN⟩

theorem Changes.put {k : S.Key} {e : Entry S k} (h : Changes N t w)
    (hs : w'.sess t = (w.sess t).put k e) (he : N k e) : Changes N t w' := by
  intro j hj
  rw [hs] at hj ⊢
  by_cases hjk : j = k
  · subst hjk
    exact ⟨e, Session.put_cache_self .., he⟩
  · rw [Session.put_cache_ne _ hjk]
    rw [Session.put_dirty, List.mem_cons] at hj
    exact h j (hj.resolve_left hjk)

/-- An assignment to an instance, changed before or not. -/
theorem Changes.assign {k : S.Key} {f : S.Row k → S.Row k} {e : Entry S k} (h : Changes N t w)
    (hi : Tidy w) (hf : (Op.assign k f : Op S A).writes N)
    (he : (w.sess t).cache k = some e) : N k { e with current := f e.current } := by
  by_cases hk : k ∈ (w.sess t).dirty
  · obtain ⟨e', he', hN⟩ := h k hk
    rw [he] at he'
    cases he'
    exact hf.2 e hN
  · have hl := hi t k e he hk
    obtain ⟨l, c⟩ := e
    dsimp only at hl ⊢
    rw [hl]
    exact hf.1 c

/-- What a commit of such a session does is one of the commits of the application. -/
def Covers (σ : StepSpec S A) (N : ∀ k, Entry S k → Prop) : Prop :=
  ∀ t w, σ.inv w → Changes N t w → (w.sess t).admissible w.db = true →
    σ.commits t w (w.view t)

theorem Changes.commit (hσ : σ.Lawful) (hN : Covers σ N) (h : Changes N t w) :
    Sat σ t (Orm.commit : Req S A Unit) (fun _ w' => Clean t w') w := by
  refine Sat.commit hσ (fun w₁ hr hi hc hfree hadm => .inr ?_) (fun _ _ _ _ _ h => h) fun _ _ h => h
  exact hN t w₁ hi (h.sess hr.1.sess) hadm

/-- Assigning to a row that has no instance fails. -/
theorem Sat.assign_none {k : S.Key} {f : S.Row k → S.Row k}
    (hσ : σ.Lawful) (hnone : (w.sess t).cache k = none)
    {Q : Except (Exc A) Unit → World S → Prop}
    (herr : ∀ w₂, Grows σ t w w₂ → Q (.error (.db .noRow)) w₂) :
    Sat σ t (Orm.assign k f) Q w := by
  refine Holds.perform fun w₁ hr hi hc c r w' hx => ?_
  have hguar : σ.rules.guar t w₁ w' :=
    ⟨fun u hu => exec_frame hu hx, .inl (exec_db (o := Op.assign k f) nofun hx)⟩
  have hclock := exec_clock hx
  obtain ⟨w₂, h₂, rfl⟩ := exec_iff.mp hx
  simp only [act, execAssign, hr.1.sess, hnone] at h₂
  cases h₂
  have hl : Loads t w₁ (w₁.tick c.tick) := .of_sess rfl rfl
  have hg : Grows σ t w₁ (w₁.tick c.tick) := .loads hσ hl (fun _ h => h) hclock
  exact ⟨hguar, hl.inv hσ hi, herr _ ((Grows.rely hr).trans hσ hg)⟩

theorem Sat.addRow (hσ : σ.Lawful) {k : S.Key} {r : S.Row k}
    {Q : Except (Exc A) Unit → World S → Prop}
    (hok : ∀ w₂, Keeps σ t w w₂ → w₂.sess t = (w.sess t).put k ⟨none, r⟩ → Q (.ok ()) w₂) :
    Sat σ t (Orm.addRow k r) Q w := by
  refine Sat.writing hσ ((w.sess t).put k ⟨none, r⟩) (fun hop => by cases hop) ?_ ?_ hok
  · intro c w₁ hw
    simp only [act, hw]
  · intro w₁ hi hw j e hj
    by_cases hne : j = k
    · subst hne
      rw [Session.put_cache_self] at hj
      cases hj
      exact ⟨fun h => absurd (List.mem_cons_self ..) h, fun l hl => by cases hl⟩
    · rw [Session.put_cache_ne _ hne, ← hw] at hj
      refine ⟨fun hd => hi.1 t j e hj fun hm => hd ?_, fun l => hi.2 t j e l hj⟩
      rw [hw] at hm
      exact List.mem_cons_of_mem k hm

theorem Changes.perform (hσ : σ.Lawful) (hN : Covers σ N) {o : Op S A} (ho : o.writes N)
    (hi : Tidy w) (h : Changes N t w) :
    Sat σ t (Prog.perform o : Req S A (Res S A o)) (fun _ w' => Changes N t w') w := by
  have grows : ∀ {w'}, Grows σ t w w' → Changes N t w' := fun hg => h.grows hg
  have clean : ∀ {w' : World S}, Clean t w' → Changes N t w' := fun hc => hc.changes
  cases o with
  | load k =>
      exact Sat.load hσ (fun _ _ _ hg _ _ => grows hg) fun _ _ h' => h'.elim clean grows
  | select q => exact Sat.select hσ (fun _ hg _ => grows hg) fun _ _ => clean
  | selectAll q => exact Sat.selectAll hσ (fun _ _ => grows) fun _ _ => clean
  | lockRows ks =>
      exact Sat.lockRows hσ (fun _ _ _ _ _ _ _ hg _ _ => grows hg) fun _ _ => clean
  | lockWhere q =>
      exact Sat.lockWhere hσ (fun _ => grows) (fun _ _ _ _ _ _ _ hg _ _ _ => grows hg)
        fun _ _ => clean
  | query γ q => exact Sat.query hσ (fun _ hg _ => grows hg) fun _ _ => clean
  | commit => exact Holds.mono (h.commit hσ hN) fun _ _ hc => clean hc
  | rollback => exact Sat.rollback fun _ => clean
  | now => exact Sat.now hσ fun _ _ _ hg hg' => grows (hg.trans hσ hg')
  | uuid4 => exact Sat.uuid4 hσ fun _ _ => grows
  | ask => exact Sat.ask hσ fun _ _ hg _ => grows hg
  | check a => exact Sat.check hσ (fun _ hg _ => grows hg) fun _ hg _ => grows hg
  | mark p => exact Sat.mark hσ fun _ _ _ hg => grows hg
  | assign k f =>
      cases he : (w.sess t).cache k with
      | none => exact Sat.assign_none hσ he fun _ => grows
      | some e =>
          exact Sat.assign hσ he fun _ _ hs => h.put hs (h.assign (A := A) hi ho he)
  | addRow k r => exact Sat.addRow hσ fun _ _ hs => h.put hs ho
  | add i =>
      refine Sat.add hσ fun w₂ _ hs j hj => ?_
      rw [hs] at hj ⊢
      exact h j hj

/-- All that such a program can commit are changes that satisfy `N`. -/
theorem All.changes (hσ : σ.Lawful) (hN : Covers σ N) {p : Req S A α}
    (hp : Prog.All (Op.writes N) p) (h : Changes N t w) :
    Sat σ t p (fun _ w' => Changes N t w') w := by
  induction p generalizing w with
  | ret a => exact h
  | raise e => exact h
  | op o k ih =>
      intro w₁ hr hi hc c r w₂ he
      obtain ⟨hg, hi₂, h₂⟩ := Changes.perform hσ hN hp.1 hi.1 (h.sess hr.1.sess) w₁
        (hσ.sound.refl t w₁) hi hc c r w₂ he
      refine ⟨hg, hi₂, ih r (hp.2 r) ?_⟩
      cases r <;> exact h₂

end SitBank.Orm
