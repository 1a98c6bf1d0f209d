import SitBank.Orm.Frame

/-!
Rules for programs over a store.

An application describes its commits (`StepSpec.commits`) and gets the
rely/guarantee rules for them: every operation except `commit` leaves the
committed state alone, so a proof about a program has obligations of its own
only where the program commits, and where it assigns attributes.
-/

namespace SitBank.Orm

open SitBank.Interaction

variable {S : Schema} {A : Type}

/-- Instances without assignments hold the values they were loaded with. -/
def Tidy (w : World S) : Prop :=
  ∀ t k (e : Entry S k), (w.sess t).cache k = some e →
    k ∉ (w.sess t).dirty → e.loaded = some e.current

/-- The committed row of every instance in an identity map has evolved from the
values the instance was loaded with. -/
def Cached (evolves : ∀ k, S.Row k → S.Row k → Prop) (w : World S) : Prop :=
  ∀ t k (e : Entry S k) l, (w.sess t).cache k = some e → e.loaded = some l →
    ∃ d, w.db.row k = some d ∧ evolves k l d

/-- What the commits of an application do to the committed state. -/
structure StepSpec (S : Schema) (A : Type) where
  /-- What a row can become: columns that are never updated, markers that are
  never taken back. -/
  evolves : ∀ k, S.Row k → S.Row k → Prop
  /-- `commits t w d`: a commit of thread `t` in `w` may produce `d`. -/
  commits : ℕ → World S → Db S → Prop
  /-- What thread `t` relies on beyond its frame. -/
  ext : ℕ → World S → World S → Prop
  cond : ℕ → Op S A → World S → Prop

namespace StepSpec

def inv (σ : StepSpec S A) (w : World S) : Prop :=
  Tidy w ∧ Cached σ.evolves w

def rules (σ : StepSpec S A) : Rules (Op S A) (World S) where
  rely t w w' := Frame t w w' ∧ σ.ext t w w'
  guar t w w' := (∀ u, u ≠ t → Frame u w w') ∧
    (w'.db = w.db ∨ σ.commits t w w'.db)
  inv := σ.inv
  cond := σ.cond

/-- The laws an application has to establish for its commits. -/
structure Lawful (σ : StepSpec S A) : Prop where
  evolves_refl : ∀ k r, σ.evolves k r r
  evolves_trans : ∀ k a b c, σ.evolves k a b → σ.evolves k b c → σ.evolves k a c
  commits_evolves : ∀ t w d, σ.commits t w d → ∀ k r, w.db.row k = some r →
    ∃ r', d.row k = some r' ∧ σ.evolves k r r'
  ext_refl : ∀ t w, σ.ext t w w
  ext_trans : ∀ t w₁ w₂ w₃, (∀ k, w₁.lock k = some t → w₂.lock k = some t) →
    σ.ext t w₁ w₂ → σ.ext t w₂ w₃ → σ.ext t w₁ w₃
  ext_quiet : ∀ t w w', w'.db = w.db → σ.ext t w w'
  ext_commits : ∀ t u w w', u ≠ t → Frame t w w' → σ.inv w → σ.commits u w w'.db →
    σ.ext t w w'

theorem Lawful.sound {σ : StepSpec S A} (h : σ.Lawful) : σ.rules.Sound where
  refl t w := ⟨.refl t w, h.ext_refl t w⟩
  trans t w₁ w₂ w₃ h₁ h₂ :=
    ⟨h₁.1.trans h₂.1, h.ext_trans t _ _ _ (fun k => (h₁.1.lock k).mpr) h₁.2 h₂.2⟩
  others t u w w' hut hi hg := by
    have hf := hg.1 t (Ne.symm hut)
    refine ⟨hf, ?_⟩
    rcases hg.2 with hdb | hc
    · exact h.ext_quiet t w w' hdb
    · exact h.ext_commits t u w w' hut hf hi hc

end StepSpec

/-! ### The invariants of the identity maps are kept -/

/-- A step of thread `t` that changes its own session only. -/
structure Own (t : ℕ) (w w' : World S) : Prop where
  db : w'.db = w.db
  others : ∀ u, u ≠ t → w'.sess u = w.sess u

theorem Tidy.of_own {t : ℕ} {w w' : World S} (h : Tidy w) (ho : Own t w w')
    (ht : ∀ k (e : Entry S k), (w'.sess t).cache k = some e →
      k ∉ (w'.sess t).dirty → e.loaded = some e.current) : Tidy w' := by
  intro u k e he hd
  by_cases hu : u = t
  · subst hu; exact ht k e he hd
  · rw [ho.others u hu] at he hd
    exact h u k e he hd

theorem Cached.of_own {evolves : ∀ k, S.Row k → S.Row k → Prop} {t : ℕ} {w w' : World S}
    (h : Cached evolves w) (ho : Own t w w')
    (ht : ∀ k (e : Entry S k) l, (w'.sess t).cache k = some e → e.loaded = some l →
      ∃ d, w.db.row k = some d ∧ evolves k l d) : Cached evolves w' := by
  intro u k e l he hl
  rw [ho.db]
  by_cases hu : u = t
  · subst hu; exact ht k e l he hl
  · rw [ho.others u hu] at he
    exact h u k e l he hl

/-- What a step may put into the identity map of its own thread: copies of
committed rows, and nothing into the list of dirty rows. -/
structure Loads (t : ℕ) (w w' : World S) : Prop where
  own : Own t w w'
  dirty : (w'.sess t).dirty = (w.sess t).dirty
  new : (w'.sess t).new = (w.sess t).new
  keep : ∀ k e, (w.sess t).cache k = some e → (w'.sess t).cache k = some e
  fresh : ∀ k e, (w'.sess t).cache k = some e → (w.sess t).cache k = some e ∨
    ∃ d, w.db.row k = some d ∧ e = ⟨some d, d⟩

namespace Loads

theorem refl (t : ℕ) (w : World S) : Loads t w w :=
  ⟨⟨rfl, fun _ _ => rfl⟩, rfl, rfl, fun _ _ h => h, fun _ _ h => .inl h⟩

theorem trans {t : ℕ} {w₁ w₂ w₃ : World S} (h : Loads t w₁ w₂) (h' : Loads t w₂ w₃) :
    Loads t w₁ w₃ where
  own := ⟨h'.own.db.trans h.own.db, fun u hu => (h'.own.others u hu).trans (h.own.others u hu)⟩
  dirty := h'.dirty.trans h.dirty
  new := h'.new.trans h.new
  keep k e he := h'.keep k e (h.keep k e he)
  fresh k e he := by
    rcases h'.fresh k e he with h₂ | ⟨d, hd, rfl⟩
    · exact h.fresh k e h₂
    · exact .inr ⟨d, by rw [← h.own.db]; exact hd, rfl⟩

theorem of_sess {t : ℕ} {w w' : World S} (hdb : w'.db = w.db) (hs : w'.sess = w.sess) :
    Loads t w w' :=
  ⟨⟨hdb, fun _ _ => by rw [hs]⟩, by rw [hs], by rw [hs], fun _ _ h => by rw [hs]; exact h,
    fun _ _ h => .inl (by rw [← hs]; exact h)⟩

theorem cacheRow (t : ℕ) (w : World S) (k : S.Key) : Loads t w (w.cacheRow t k) := by
  unfold World.cacheRow
  split
  · refine ⟨⟨rfl, fun u hu => Function.update_of_ne hu _ _⟩, by simp, by simp, ?_, ?_⟩
    · intro j e he
      rw [World.setSess_sess]
      simp only [World.loaded, he]
    · intro j e he
      rw [World.setSess_sess] at he
      simp only [World.loaded] at he
      split at he
      · next h =>
          rw [h]
          exact .inl he
      -- an instance that was not there is a copy of its row
      · split at he
        · obtain ⟨d, hd, rfl⟩ := Option.map_eq_some_iff.mp he
          exact .inr ⟨d, hd, rfl⟩
        · cases he
  · exact .refl t w

theorem cacheRows (t : ℕ) (ks : List S.Key) (w : World S) :
    Loads t w (ks.foldl (fun w k => w.cacheRow t k) w) := by
  induction ks generalizing w with
  | nil => exact .refl t w
  | cons k ks ih => exact (cacheRow t w k).trans (ih _)

theorem lockRow (t : ℕ) (w : World S) (k : S.Key) : Loads t w (w.lockRow t k) :=
  have hlock : Loads t w { w with lock := Function.update w.lock k (some t) } :=
    of_sess rfl rfl
  hlock.trans (cacheRow t _ k)

theorem lockRows (t : ℕ) (ks : List S.Key) (w : World S) :
    Loads t w (ks.foldl (fun w k => w.lockRow t k) w) := by
  induction ks generalizing w with
  | nil => exact .refl t w
  | cons k ks ih => exact (lockRow t w k).trans (ih _)

theorem inv {σ : StepSpec S A} (hσ : σ.Lawful) {t : ℕ} {w w' : World S} (h : Loads t w w')
    (hi : σ.inv w) : σ.inv w' := by
  refine ⟨hi.1.of_own h.own ?_, hi.2.of_own h.own ?_⟩
  · intro k e he hd
    rcases h.fresh k e he with h₀ | ⟨d, _, rfl⟩
    · exact hi.1 t k e h₀ (by rwa [h.dirty] at hd)
    · rfl
  · intro k e l he hl
    rcases h.fresh k e he with h₀ | ⟨d, hd, rfl⟩
    · exact hi.2 t k e l h₀ hl
    · cases hl
      exact ⟨l, hd, hσ.evolves_refl k l⟩

end Loads

/-- Ending a transaction empties the identity map. -/
theorem inv_release {σ : StepSpec S A} {t : ℕ} {w w' : World S}
    (hi : σ.inv w) (hdb : w'.db = w.db) (hs : ∀ u, u ≠ t → w'.sess u = w.sess u)
    (ht : w'.sess t = Session.empty S) : σ.inv w' := by
  refine ⟨hi.1.of_own ⟨hdb, hs⟩ ?_, hi.2.of_own ⟨hdb, hs⟩ ?_⟩
  · intro k e he
    rw [ht] at he
    cases he
  · intro k e l he
    rw [ht] at he
    cases he

end SitBank.Orm
