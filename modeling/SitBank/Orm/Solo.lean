import SitBank.Interaction.Settlement
import SitBank.Interaction.Solo
import SitBank.Orm.Hoare

/-!
A request that nobody interferes with.

Its session holds the committed values of the rows it has loaded (`Fresh`), and
a passive program does one of two things to it: load more rows, or end the
transaction, with or without what the session held (`Drift`).
-/

namespace SitBank.Orm

open SitBank.Interaction

variable {S : Schema} {A α G : Type} {t : ℕ}

/-- The instances of thread `t` were loaded with the committed values. -/
def Fresh (t : ℕ) (w : World S) : Prop :=
  ∀ k (e : Entry S k) l, (w.sess t).cache k = some e → e.loaded = some l → w.db.row k = some l

/-- The rows that thread `t` has changed have instances. -/
def Backed (t : ℕ) (w : World S) : Prop :=
  ∀ k, k ∈ (w.sess t).dirty → ∃ e, (w.sess t).cache k = some e

/-- What a passive program can do to the transaction of its thread. -/
def Drift (t : ℕ) (w w' : World S) : Prop :=
  Loads t w w' ∨ Idle t w' ∧ Fresh t w' ∧ (w'.db = w.db ∨ w'.db = w.view t)

theorem Copy.row_eq {w : World S} {k : S.Key} {r : S.Row k} (h : Copy t w k r)
    (hf : Fresh t w) : w.db.row k = some r := hf k _ r h rfl

theorem Clean.fresh {w : World S} (h : Clean t w) : Fresh t w := by
  intro k e l he
  rw [h] at he
  cases he

theorem Idle.backed {w : World S} (h : Idle t w) : Backed t w := by
  intro k hk
  exact absurd hk (h.not_mem k)

theorem Backed.put {w w' : World S} {k : S.Key} {e : Entry S k} (h : Backed t w)
    (hs : w'.sess t = (w.sess t).put k e) : Backed t w' := by
  intro j hj
  rw [hs] at hj ⊢
  by_cases hjk : j = k
  · subst hjk
    exact ⟨e, Session.put_cache_self ..⟩
  · rw [Session.put_cache_ne _ hjk]
    rw [Session.put_dirty, List.mem_cons] at hj
    exact h j (hj.resolve_left hjk)

/-- An assignment keeps the loaded values. -/
theorem Fresh.put {w w' : World S} {k : S.Key} {l c : S.Row k} (h : Fresh t w)
    (hdb : w'.db = w.db) (hl : w.db.row k = some l)
    (hs : w'.sess t = (w.sess t).put k ⟨some l, c⟩) : Fresh t w' := by
  intro j e l' he hl'
  rw [hs] at he
  rw [hdb]
  by_cases hjk : j = k
  · subst hjk
    rw [Session.put_cache_self] at he
    cases he
    cases hl'
    exact hl
  · rw [Session.put_cache_ne _ hjk] at he
    exact h j e l' he hl'

namespace Loads

variable {w w' : World S}

theorem backed (h : Loads t w w') (hb : Backed t w) : Backed t w' := by
  intro k hk
  rw [h.dirty] at hk
  obtain ⟨e, he⟩ := hb k hk
  exact ⟨e, h.keep k e he⟩

theorem freshness (h : Loads t w w') (hf : Fresh t w) : Fresh t w' := by
  intro k e l he hl
  rw [h.own.db]
  rcases h.fresh k e he with h₀ | ⟨d, hd, rfl⟩
  · exact hf k e l h₀ hl
  · cases hl
    exact hd

theorem idle (h : Loads t w w') (hi : Idle t w) : Idle t w' :=
  ⟨h.dirty.trans hi.dirty, h.new.trans hi.new⟩

/-- Loading rows does not change what the session would write. -/
theorem view_eq (h : Loads t w w') (hb : Backed t w) : w'.view t = w.view t := by
  unfold World.view Session.apply
  rw [h.own.db, h.dirty, h.new]
  congr 1
  funext k
  split
  · next hk =>
      obtain ⟨e, he⟩ := hb k hk
      rw [he, h.keep k e he]
  · rfl

end Loads

namespace Drift

variable {w w₁ w₂ : World S}

theorem refl (t : ℕ) (w : World S) : Drift t w w := .inl (.refl t w)

theorem trans (hb : Backed t w) (h : Drift t w w₁) (h' : Drift t w₁ w₂) : Drift t w w₂ := by
  rcases h with h | ⟨hidle, hfresh, hdb⟩
  · rcases h' with h' | ⟨hidle', hfresh', hdb'⟩
    · exact .inl (h.trans h')
    · rw [h.own.db, h.view_eq hb] at hdb'
      exact .inr ⟨hidle', hfresh', hdb'⟩
  · rcases h' with h' | ⟨hidle', hfresh', hdb'⟩
    · exact .inr ⟨h'.idle hidle, h'.freshness hfresh, by rw [h'.own.db]; exact hdb⟩
    · rw [view_idle hidle, or_self_iff] at hdb'
      exact .inr ⟨hidle', hfresh', by rw [hdb']; exact hdb⟩

theorem backed (h : Drift t w w₁) (hb : Backed t w) : Backed t w₁ := by
  rcases h with h | h
  · exact h.backed hb
  · exact h.1.backed

theorem freshness (h : Drift t w w₁) (hf : Fresh t w) : Fresh t w₁ := by
  rcases h with h | h
  · exact h.freshness hf
  · exact h.2.1

/-- A session without changes stays without changes. -/
theorem idle (h : Drift t w w₁) (hi : Idle t w) : w₁.db = w.db ∧ Idle t w₁ := by
  rcases h with h | ⟨hidle, _, hdb⟩
  · exact ⟨h.own.db, h.idle hi⟩
  · rw [view_idle hi, or_self_iff] at hdb
    exact ⟨hdb, hidle⟩

/-- The committed state, and the state that a commit would produce. -/
theorem db_view (h : Drift t w w₁) (hb : Backed t w) :
    (w₁.db = w.db ∨ w₁.db = w.view t) ∧ (w₁.view t = w.db ∨ w₁.view t = w.view t) := by
  rcases h with h | ⟨hidle, _, hdb⟩
  · exact ⟨.inl h.own.db, .inr (h.view_eq hb)⟩
  · rw [view_idle hidle]
    exact ⟨hdb, hdb⟩

end Drift

/-! ### Passive operations -/

theorem drift_release (w : World S) : Drift t w (w.release t) := by
  have hclean : Clean t (w.release t) := World.release_sess w t
  exact .inr ⟨hclean.idle, hclean.fresh, .inl rfl⟩

theorem drift_commit (w : World S) : Drift t w (({ w with db := w.view t }).release t) := by
  have hclean : Clean t (({ w with db := w.view t }).release t) := World.release_sess _ t
  exact .inr ⟨hclean.idle, hclean.fresh, .inr rfl⟩

theorem act_passive {o : Op S A} (ho : o.passive) {c : Choice} {w w' : World S}
    {r : Except (Exc A) (Res S A o)} (h : act t o c w = some (r, w')) : Drift t w w' := by
  have hsame := Drift.refl t w
  -- a step that fails ends the transaction
  have hfail := drift_release (t := t) w
  cases o with
  | load k =>
      simp only [act, execLoad, failed] at h
      split at h
      · cases h; exact hsame
      · split at h
        · cases h; exact hfail
        · split at h <;> cases h
          · exact .inl (Loads.cacheRow t w k)
          · exact hsame
  | select q =>
      simp only [act, execSelect, failed] at h
      split at h
      · cases h; exact hfail
      · split at h <;> cases h
        · exact hsame
        · exact .inl (Loads.cacheRow t w _)
  | selectAll q =>
      simp only [act, execSelectAll, failed] at h
      split at h <;> cases h
      · exact hfail
      · exact .inl (Loads.cacheRows t _ w)
  | lockRows ks =>
      simp only [act, execLockRows, failed] at h
      split at h
      · cases h; exact hfail
      · split at h <;> cases h
        exact .inl (Loads.lockRows t ks w)
  | lockWhere q =>
      simp only [act, execLockWhere, failed] at h
      split at h
      · cases h; exact hfail
      · split at h
        · cases h; exact hsame
        · split at h <;> cases h
          exact .inl (Loads.lockRow t w _)
  | query β q =>
      simp only [act, failed] at h
      split at h <;> cases h
      · exact hfail
      · exact hsame
  | commit =>
      rcases act_commit_cases h with ⟨_, rfl, _⟩ | ⟨_, _, rfl, _⟩
      · exact hfail
      · exact drift_commit w
  | check a =>
      simp only [act] at h
      split at h <;> cases h <;> exact hsame
  | rollback =>
      simp only [act] at h
      cases h
      exact hfail
  | now | uuid4 | ask =>
      simp only [act] at h
      cases h
      exact hsame
  | assign | addRow | add | mark => exact absurd ho id

theorem exec_passive {o : Op S A} (ho : o.passive) {c : Choice} {w w' : World S}
    {r : Except (Exc A) (Res S A o)} (h : exec t o c w = some (r, w')) : Drift t w w' := by
  obtain ⟨w₁, hact, rfl⟩ := exec_iff.mp h
  rcases act_passive ho hact with hl | ⟨hidle, hfresh, hdb⟩
  · exact .inl (hl.trans (.of_sess rfl rfl))
  · exact .inr ⟨⟨hidle.dirty, hidle.new⟩, hfresh, hdb⟩

theorem Passive.drift {p : Req S A α} (hp : Passive p) {w : World S} (hb : Backed t w) :
    Solo exec t p (fun _ w' => Drift t w w') w := by
  induction p generalizing w with
  | ret a => exact .refl t w
  | raise e => exact .refl t w
  | op o k ih =>
      refine Solo.op fun c r w₁ he => ?_
      have hd := exec_passive hp.1 he
      exact (ih r (hp.2 r) (hd.backed hb)).mono fun _ _ hd' => hd.trans hb hd'

/-- A passive program, where nothing that it does is recorded. -/
theorem Passive.solo {note : (o : Op S A) → Except (Exc A) (Res S A o) → G → G} {g : G}
    (hnote : ∀ o r, o.passive → note o r g = g) {p : Req S A α} (hp : Passive p) {w : World S}
    (hb : Backed t w) :
    Solo (ghost exec note) t p (fun _ x => Drift t w x.1 ∧ x.2 = g) (w, g) := by
  induction p generalizing w with
  | ret a => exact ⟨.refl t w, rfl⟩
  | raise e => exact ⟨.refl t w, rfl⟩
  | op o k ih =>
      rintro x rfl _ _ c r x' he
      obtain ⟨⟨r₁, w₁⟩, h₁, heq⟩ := Option.map_eq_some_iff.mp he
      cases heq
      have hd := exec_passive hp.1 h₁
      refine ⟨trivial, trivial, ?_⟩
      dsimp only
      rw [hnote o r₁ hp.1]
      refine (ih r₁ (hp.2 r₁) (hd.backed hb)).mono ?_
      rintro r' x' ⟨hd', hg'⟩
      exact ⟨hd.trans hb hd', hg'⟩

/-! ### The end of a transaction -/

/-- The transaction of thread `t`. -/
def transaction (t : ℕ) : Transactional (World S) (Db S) := ⟨World.db, fun w => w.view t⟩

theorem Drift.settles {w w' : World S} (hb : Backed t w) (h : Drift t w w') (hidle : Idle t w') :
    (transaction t).Settles w w' :=
  ⟨view_idle hidle, (h.db_view hb).1.symm⟩

theorem idle_commit (w : World S) :
    Solo exec t (commit : Req S A Unit) (fun _ w' => Idle t w') w := by
  refine Holds.perform fun _ _ _ _ c r w' he => ⟨trivial, trivial, ?_⟩
  obtain ⟨w₁, hact, rfl⟩ := exec_iff.mp he
  rcases act_commit_cases hact with ⟨_, rfl, _⟩ | ⟨_, _, rfl, _⟩
  · exact (clean_release _ _ _).idle
  · exact (clean_release _ _ _).idle

theorem idle_rollback (w : World S) :
    Solo exec t (rollback : Req S A Unit) (fun _ w' => Idle t w') w := by
  refine Holds.perform fun _ _ _ _ c r w' he => ⟨trivial, trivial, ?_⟩
  obtain ⟨w₁, hact, rfl⟩ := exec_iff.mp he
  cases hact
  exact (clean_release _ _ _).idle

/-- A commit, and a rollback wherever something has failed. -/
theorem idle_commitOrRollback (p : Req S A Unit) (w : World S) :
    Solo exec t ((p.bind fun _ => commit).tryCatch fun _ => rollback) (fun _ w' => Idle t w') w := by
  refine Holds.tryCatch (M := fun r w' => r = .ok () → Idle t w') ?_
    (fun _ _ h => h rfl) fun _ w' _ => idle_rollback w'
  refine Holds.bind (M := fun _ _ => True) (Solo.of_forall (fun _ _ => trivial) w) ?_ nofun
  exact fun _ w' _ => (idle_commit w').mono fun _ _ h _ => h

/-! ### Single operations -/

section Operations

variable {note : (o : Op S A) → Except (Exc A) (Res S A o) → G → G} {g : G} {w : World S}

/-- A row that exists: only a failing read ends the transaction. -/
theorem Solo.load {k : S.Key} {d : S.Row k} (hd : w.db.row k = some d)
    {Q : Except (Exc A) (S.Row k) → World S × G → Prop}
    (hok : ∀ r w', Loads t w w' → Q (.ok r) (w', note (.load k) (.ok r) g))
    (herr : ∀ e w', w'.db = w.db → Clean t w' → (w.sess t).cache k = none →
      Q (.error e) (w', note (.load k) (.error e) g)) :
    Solo (ghost exec note) t (load k) Q (w, g) := by
  refine Solo.perform fun c r w' he => ?_
  obtain ⟨w₁, hact, rfl⟩ := exec_iff.mp he
  have htick : ∀ w₁ : World S, Loads t w₁ (w₁.tick c.tick) := fun w₁ => .of_sess rfl rfl
  simp only [act, execLoad, failed] at hact
  split at hact
  · cases hact
    exact hok _ _ (htick w)
  · next hc =>
      split at hact
      · cases hact
        exact herr _ _ rfl (clean_release _ _ _) hc
      · rw [hd] at hact
        cases hact
        exact hok _ _ ((Loads.cacheRow t w k).trans (htick _))

theorem Solo.query {β : Type} {q : Db S → β} {Q : Except (Exc A) β → World S × G → Prop}
    (hok : ∀ r w', Loads t w w' → w'.view t = w.view t →
      Q (.ok r) (w', note (.query β q) (.ok r) g))
    (herr : ∀ e w', w'.db = w.db → Clean t w' →
      Q (.error e) (w', note (.query β q) (.error e) g)) :
    Solo (ghost exec note) t (query q) Q (w, g) := by
  refine Solo.perform fun c r w' he => ?_
  obtain ⟨w₁, hact, rfl⟩ := exec_iff.mp he
  simp only [act, failed] at hact
  split at hact
  · cases hact
    exact herr _ _ rfl (clean_release _ _ _)
  · cases hact
    exact hok _ _ (.of_sess rfl rfl) rfl

theorem Solo.check {a : A} {Q : Except (Exc A) Unit → World S × G → Prop}
    (hok : ∀ w', Loads t w w' → Q (.ok ()) (w', note (.check a) (.ok ()) g))
    (herr : ∀ w', Loads t w w' →
      Q (.error (.app a)) (w', note (.check a) (.error (.app a)) g)) :
    Solo (ghost exec note) t (check a) Q (w, g) := by
  refine Solo.perform fun c r w' he => ?_
  obtain ⟨w₁, hact, rfl⟩ := exec_iff.mp he
  simp only [act] at hact
  split at hact
  · cases hact
    exact herr _ (.of_sess rfl rfl)
  · cases hact
    exact hok _ (.of_sess rfl rfl)

theorem Solo.mark {p : S.Point} {Q : Except (Exc A) Unit → World S × G → Prop}
    (hok : ∀ w', Loads t w w' → w'.view t = w.view t →
      Q (.ok ()) (w', note (.mark p) (.ok ()) g)) :
    Solo (ghost exec note) t (mark p) Q (w, g) := by
  refine Solo.perform fun c r w' he => ?_
  obtain ⟨w₁, hact, rfl⟩ := exec_iff.mp he
  cases hact
  exact hok _ (.of_sess rfl rfl) rfl

theorem Solo.ask {Q : Except (Exc A) Bool → World S × G → Prop}
    (hok : ∀ b w', Loads t w w' → w'.view t = w.view t →
      Q (.ok b) (w', note .ask (.ok b) g)) :
    Solo (ghost exec note) t ask Q (w, g) := by
  refine Solo.perform fun c r w' he => ?_
  obtain ⟨w₁, hact, rfl⟩ := exec_iff.mp he
  cases hact
  exact hok _ _ (.of_sess rfl rfl) rfl

theorem Solo.rollback {Q : Except (Exc A) Unit → World S × G → Prop}
    (hok : ∀ w', w'.db = w.db → Clean t w' → Q (.ok ()) (w', note .rollback (.ok ()) g)) :
    Solo (ghost exec note) t rollback Q (w, g) := by
  refine Solo.perform fun c r w' he => ?_
  obtain ⟨w₁, hact, rfl⟩ := exec_iff.mp he
  cases hact
  exact hok _ rfl (clean_release _ _ _)

theorem Solo.commit {Q : Except (Exc A) Unit → World S × G → Prop}
    (hok : ∀ w', w'.db = w.view t → Clean t w' → Q (.ok ()) (w', note .commit (.ok ()) g))
    (herr : ∀ e w', w'.db = w.db → Clean t w' →
      Q (.error (.db e)) (w', note .commit (.error (.db e)) g)) :
    Solo (ghost exec note) t commit Q (w, g) := by
  refine Solo.perform fun c r w' he => ?_
  obtain ⟨w₁, hact, rfl⟩ := exec_iff.mp he
  rcases act_commit_cases hact with ⟨e, rfl, rfl⟩ | ⟨_, _, rfl, rfl⟩
  · exact herr e _ rfl (clean_release _ _ _)
  · exact hok _ rfl (clean_release _ _ _)

end Operations

end SitBank.Orm
