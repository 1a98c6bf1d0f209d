import SitBank.Orm.Rules

/-!
Specifications of the operations.

`Grows t w w'` is everything thread `t` still knows at `w'` of what it knew at
`w` when it only read in between: its identity map has been extended, its locks
are held, the rows under them are unchanged. `Finds` is the specification of a
program that, when it returns, has only read; it may commit on the way to an
exception, as the rejecting branches do. A `Quiet` program may commit at any
point. Neither assigns attributes, so both are safe wherever the session could
be committed as it stands (`Settled`).
-/

namespace SitBank.Orm

open SitBank.Interaction

variable {S : Schema} {A α β : Type}

/-- `Holds` for the rules of an application. -/
abbrev Sat (σ : StepSpec S A) (t : ℕ) (p : Req S A α)
    (Q : Except (Exc A) α → World S → Prop) (w : World S) : Prop :=
  Holds exec σ.rules t p Q w

/-- What thread `t` keeps as long as its transaction lasts. -/
structure Keeps (σ : StepSpec S A) (t : ℕ) (w w' : World S) : Prop where
  lock : ∀ k, w.lock k = some t → w'.lock k = some t
  row : ∀ k, w.lock k = some t → w'.db.row k = w.db.row k
  clock : w.clock ≤ w'.clock
  ext : σ.ext t w w'

structure Grows (σ : StepSpec S A) (t : ℕ) (w w' : World S) : Prop extends Keeps σ t w w' where
  dirty : (w'.sess t).dirty = (w.sess t).dirty
  new : (w'.sess t).new = (w.sess t).new
  keep : ∀ k e, (w.sess t).cache k = some e → (w'.sess t).cache k = some e

/-- The session is as at the start of a transaction. -/
def Clean (t : ℕ) (w : World S) : Prop := w.sess t = Session.empty S

/-- The session holds an instance of row `k` with the values `r`; if it was not
assigned to, these are the values that were loaded. -/
def Instance (t : ℕ) (w : World S) (k : S.Key) (r : S.Row k) : Prop :=
  ∃ e, (w.sess t).cache k = some e ∧ e.current = r ∧
    (k ∉ (w.sess t).dirty → e.loaded = some e.current)

/-- The session holds an unchanged instance of row `k`. -/
def Copy (t : ℕ) (w : World S) (k : S.Key) (r : S.Row k) : Prop :=
  (w.sess t).cache k = some ⟨some r, r⟩

/-- The session has no changes. -/
structure Idle (t : ℕ) (w : World S) : Prop where
  dirty : (w.sess t).dirty = []
  new : (w.sess t).new = []

/-- Committing the session as it stands is one of the commits of the
application, or commits nothing. -/
def Settled (σ : StepSpec S A) (t : ℕ) (w : World S) : Prop :=
  Idle t w ∨ ∀ w', Grows σ t w w' → σ.inv w' → σ.cond t .commit w' →
    (w'.sess t).admissible w'.db = true → σ.commits t w' (w'.view t)

theorem view_row_of_not_mem {t : ℕ} {w : World S} {k : S.Key} (h : k ∉ (w.sess t).dirty) :
    (w.view t).row k = w.db.row k := if_neg h

theorem view_row_of_mem {t : ℕ} {w : World S} {k : S.Key} {l c d : S.Row k}
    (h : k ∈ (w.sess t).dirty) (hc : (w.sess t).cache k = some ⟨some l, c⟩)
    (hd : w.db.row k = some d) : (w.view t).row k = some (S.merge k l c d) := by
  simp [World.view, Session.apply, Entry.write, h, hc, hd]

theorem view_log (t : ℕ) (w : World S) : (w.view t).log = w.db.log ++ (w.sess t).new := rfl

theorem Idle.apply {t : ℕ} {w : World S} (h : Idle t w) (d : Db S) : (w.sess t).apply d = d := by
  simp [Session.apply, h.dirty, h.new]

theorem view_idle {t : ℕ} {w : World S} (h : Idle t w) : w.view t = w.db := h.apply w.db

theorem Idle.not_mem {t : ℕ} {w : World S} (h : Idle t w) (k : S.Key) :
    k ∉ (w.sess t).dirty := by
  simp [h.dirty]

section Laws

variable {σ : StepSpec S A} {t : ℕ} {w : World S}

theorem Keeps.trans (hσ : σ.Lawful) {w₁ w₂ w₃ : World S} (h : Keeps σ t w₁ w₂)
    (h' : Keeps σ t w₂ w₃) : Keeps σ t w₁ w₃ where
  lock k hk := h'.lock k (h.lock k hk)
  row k hk := (h'.row k (h.lock k hk)).trans (h.row k hk)
  clock := le_trans h.clock h'.clock
  ext := hσ.ext_trans t _ _ _ h.lock h.ext h'.ext

theorem Keeps.rely {w w' : World S} (h : σ.rules.rely t w w') : Keeps σ t w w' where
  lock k hk := (h.1.lock k).mpr hk
  row := h.1.row
  clock := h.1.clock
  ext := h.2

theorem Keeps.of_db (hσ : σ.Lawful) {w w' : World S} (hdb : w'.db = w.db)
    (hl : ∀ k, w.lock k = some t → w'.lock k = some t) (hc : w.clock ≤ w'.clock) :
    Keeps σ t w w' where
  lock := hl
  row k _ := by rw [hdb]
  clock := hc
  ext := hσ.ext_quiet t w w' hdb

namespace Grows

theorem refl (hσ : σ.Lawful) (w : World S) : Grows σ t w w :=
  ⟨.of_db hσ rfl (fun _ h => h) le_rfl, rfl, rfl, fun _ _ h => h⟩

theorem rely {w w' : World S} (h : σ.rules.rely t w w') : Grows σ t w w' where
  toKeeps := .rely h
  dirty := by rw [h.1.sess]
  new := by rw [h.1.sess]
  keep k e he := by rw [h.1.sess]; exact he

theorem loads (hσ : σ.Lawful) {w w' : World S} (h : Loads t w w')
    (hl : ∀ k, w.lock k = some t → w'.lock k = some t) (hc : w.clock ≤ w'.clock) :
    Grows σ t w w' where
  toKeeps := .of_db hσ h.own.db hl hc
  dirty := h.dirty
  new := h.new
  keep := h.keep

theorem trans (hσ : σ.Lawful) {w₁ w₂ w₃ : World S} (h : Grows σ t w₁ w₂)
    (h' : Grows σ t w₂ w₃) : Grows σ t w₁ w₃ where
  toKeeps := h.toKeeps.trans hσ h'.toKeeps
  dirty := h'.dirty.trans h.dirty
  new := h'.new.trans h.new
  keep k e he := h'.keep k e (h.keep k e he)

end Grows

theorem Idle.grows {w w' : World S} (h : Idle t w) (hg : Grows σ t w w') : Idle t w' :=
  ⟨hg.dirty.trans h.dirty, hg.new.trans h.new⟩

theorem Copy.grows {w w' : World S} {k : S.Key} {r : S.Row k} (h : Copy t w k r)
    (hg : Grows σ t w w') : Copy t w' k r := hg.keep k _ h

/-- An assignment leaves the other instances alone. -/
theorem Copy.put {w w' : World S} {j k : S.Key} {r : S.Row k} {e : Entry S j}
    (h : Copy t w k r) (hs : w'.sess t = (w.sess t).put j e) (hne : k ≠ j) : Copy t w' k r := by
  rw [Copy, hs, Session.put_cache_ne _ hne]
  exact h

theorem Instance.copy {w : World S} {k : S.Key} {r : S.Row k} (h : Instance t w k r)
    (hd : k ∉ (w.sess t).dirty) : Copy t w k r := by
  obtain ⟨⟨l, c⟩, he, rfl, hl⟩ := h
  rw [Copy, he]
  exact congrArg (fun l => some (⟨l, c⟩ : Entry S k)) (hl hd)

theorem Instance.eq_of_copy {w : World S} {k : S.Key} {r r' : S.Row k} (h : Instance t w k r)
    (hc : Copy t w k r') : r = r' := by
  obtain ⟨e, he, rfl, _⟩ := h
  rw [Copy, he] at hc
  cases hc
  rfl

/-- Rows that enter the identity map are copies. -/
theorem Tidy.copy {w : World S} (h : Tidy w) {k : S.Key} {e : Entry S k}
    (he : (w.sess t).cache k = some e) (hd : k ∉ (w.sess t).dirty) : Copy t w k e.current :=
  Instance.copy ⟨e, he, rfl, h t k e he⟩ hd

/-- An instance after rows were loaded: the one that was there, or a copy of
the row. -/
theorem Loads.copy {w w₁ w₂ : World S} (hl : Loads t w₁ w₂) (hs : w₁.sess t = w.sess t)
    (hdb : w₁.db = w₂.db) (hi : Tidy w₂) {k : S.Key} {e : Entry S k} {d : S.Row k}
    (he : (w₂.sess t).cache k = some e) (hd : w₂.db.row k = some d)
    (hdirty : k ∉ (w.sess t).dirty) :
    Copy t w₂ k (((w.sess t).cache k).elim d Entry.current) := by
  have hcopy := hi.copy he (by rwa [hl.dirty, hs])
  rcases hl.fresh k e he with h | ⟨d', hd', rfl⟩
  · rw [hs] at h
    rw [h]
    exact hcopy
  · rw [hdb, hd] at hd'
    cases hd'
    cases hk : (w.sess t).cache k with
    | none => exact he
    | some e' =>
        have h₁ := hl.keep k e' (by rw [hs]; exact hk)
        rw [he] at h₁
        cases h₁
        exact he

theorem Settled.grows (hσ : σ.Lawful) {w w' : World S} (h : Settled σ t w)
    (hg : Grows σ t w w') : Settled σ t w' := by
  rcases h with h | h
  · exact .inl (h.grows hg)
  · exact .inr fun w₂ h₂ => h w₂ (hg.trans hσ h₂)

/-- What a commit of a settled session does. -/
theorem Settled.commits (hσ : σ.Lawful) {w w' : World S} (h : Settled σ t w)
    (hg : Grows σ t w w') (hi : σ.inv w') (hc : σ.cond t .commit w')
    (hadm : (w'.sess t).admissible w'.db = true) :
    w'.view t = w'.db ∨ σ.commits t w' (w'.view t) := by
  rcases h.grows hσ hg with h | h
  · exact .inl (view_idle h)
  · exact .inr (h w' (Grows.refl hσ w') hi hc hadm)

theorem Clean.idle {w : World S} (h : Clean t w) : Idle t w := by
  constructor <;> rw [h] <;> rfl

theorem Clean.settled {w : World S} (h : Clean t w) : Settled σ t w := .inl h.idle

theorem clean_release (w : World S) (t n : ℕ) : Clean t ((w.release t).tick n) :=
  World.release_sess w t

/-! ### Operations other than `commit`

In each rule the postcondition is stated about the world after the operation,
relative to the world in which the program was ready to perform it. -/

/-- Reading operations either extend what the thread knows or end its
transaction with an error. -/
theorem Sat.reading (hσ : σ.Lawful) {o : Op S A} {w : World S}
    {Q : Except (Exc A) (Res S A o) → World S → Prop} (ho : o ≠ .commit)
    (h : ∀ w₁ c r w₂, σ.rules.rely t w w₁ → σ.inv w₁ → σ.cond t o w₁ →
      act t o c w₁ = some (r, w₂) →
      (w₂ = w₁.release t ∧ ∃ e, r = .error e) ∨
      (Loads t w₁ w₂ ∧ (∀ k, w₁.lock k = some t → w₂.lock k = some t) ∧
        ∀ n, σ.inv (w₂.tick n) → Grows σ t w (w₂.tick n) → Q r (w₂.tick n)))
    (herr : ∀ e w₂, Clean t w₂ → Q (.error e) w₂) :
    Sat σ t (Prog.perform o) Q w := by
  refine Holds.perform fun w₁ hr hi hc c r w' he => ?_
  have hframe : ∀ u, u ≠ t → Frame u w₁ w' := fun u hu => exec_frame hu he
  have hclock := exec_clock he
  refine ⟨⟨hframe, .inl (exec_db ho he)⟩, ?_⟩
  obtain ⟨w₂, hact, rfl⟩ := exec_iff.mp he
  rcases h w₁ c r w₂ hr hi hc hact with ⟨rfl, e, rfl⟩ | ⟨hl, hlock, hQ⟩
  · exact ⟨inv_release hi rfl (fun u hu => (hframe u hu).sess)
      (World.release_sess _ _), herr e _ (clean_release _ _ _)⟩
  · have hl' : Loads t w₁ (w₂.tick c.tick) := hl.trans (.of_sess rfl rfl)
    have hg : Grows σ t w₁ (w₂.tick c.tick) := .loads hσ hl' hlock hclock
    have hi' := hl'.inv hσ hi
    exact ⟨hi', hQ c.tick hi' ((Grows.rely hr).trans hσ hg)⟩

theorem lockRow_keeps {w : World S} {k j : S.Key} (h : w.lock j = some t) :
    (w.lockRow t k).lock j = some t := by
  rw [World.lockRow_lock]
  by_cases hj : j = k
  · subst hj; simp
  · rwa [Function.update_of_ne hj]

theorem lockRows_keeps {ks : List S.Key} {w : World S} {j : S.Key} (h : w.lock j = some t) :
    (ks.foldl (fun w k => w.lockRow t k) w).lock j = some t := by
  induction ks generalizing w with
  | nil => exact h
  | cons k ks ih => exact ih (lockRow_keeps h)

theorem lockRows_locks {ks : List S.Key} {w : World S} {j : S.Key} (h : j ∈ ks) :
    (ks.foldl (fun w k => w.lockRow t k) w).lock j = some t := by
  induction ks generalizing w with
  | nil => cases h
  | cons k ks ih =>
      rcases List.mem_cons.mp h with rfl | h
      · rw [List.foldl_cons]
        exact lockRows_keeps (by rw [World.lockRow_lock, Function.update_self])
      · exact ih h

theorem cacheRow_cached {w : World S} {k : S.Key} {d : S.Row k} (hd : w.db.row k = some d) :
    ∃ e, ((w.cacheRow t k).sess t).cache k = some e := by
  unfold World.cacheRow
  split
  · next hc hr =>
      refine ⟨⟨some d, d⟩, ?_⟩
      rw [World.setSess_sess]
      simp [World.loaded, hc, hd]
  · next hc =>
      cases hk : (w.sess t).cache k with
      | none => exact (hc d hk hd).elim
      | some e => exact ⟨e, rfl⟩

theorem lockRows_cached {ks : List S.Key} {w : World S} {k : S.Key} (hk : k ∈ ks)
    {d : S.Row k} (hd : w.db.row k = some d) :
    ∃ e, ((ks.foldl (fun w k => w.lockRow t k) w).sess t).cache k = some e := by
  induction ks generalizing w with
  | nil => cases hk
  | cons j ks ih =>
      rcases List.mem_cons.mp hk with rfl | hk
      · obtain ⟨e, he⟩ := cacheRow_cached (t := t)
          (w := { w with lock := Function.update w.lock k (some t) }) hd
        exact ⟨e, (Loads.lockRows t ks (w.lockRow t k)).keep k e he⟩
      · exact ih hk (by rw [World.lockRow_db]; exact hd)

theorem Sat.load (hσ : σ.Lawful) {k : S.Key} {w : World S}
    {Q : Except (Exc A) (S.Row k) → World S → Prop}
    (hok : ∀ e w₂, σ.inv w₂ → Grows σ t w w₂ → (w₂.sess t).cache k = some e →
      ((w.sess t).cache k = none → w₂.db.row k = some e.current) → Q (.ok e.current) w₂)
    (herr : ∀ e w₂, Clean t w₂ ∨ Grows σ t w w₂ → Q (.error e) w₂) :
    Sat σ t (load k) Q w := by
  refine Sat.reading hσ nofun ?_ fun e w₂ h => herr e w₂ (.inl h)
  intro w₁ c r w₂ hr _ _ he
  simp only [act, execLoad, failed] at he
  split at he
  -- the instance is in the identity map: nothing is read
  · next e hc =>
      cases he
      refine .inr ⟨.refl t _, fun _ h => h, fun n hi hg => hok e _ hi hg hc fun hn => ?_⟩
      rw [← hr.1.sess, hc] at hn
      cases hn
  · next hc =>
      split at he
      · cases he
        exact .inl ⟨rfl, _, rfl⟩
      · split at he
        -- the row is read and kept under its key
        · next d hd =>
            cases he
            refine .inr ⟨.cacheRow t _ k, by simp, fun n hi hg => ?_⟩
            have hcr : w₁.cacheRow t k =
                w₁.setSess t { w₁.sess t with cache := w₁.loaded t k } := by
              unfold World.cacheRow
              rw [hc, hd]
            refine hok ⟨some d, d⟩ _ hi hg ?_ fun _ => ?_
            · rw [World.tick_sess, hcr, World.setSess_sess]
              simp [World.loaded, hc, hd]
            · rw [World.tick_db, World.cacheRow_db, hd]
        · cases he
          exact .inr ⟨.refl t _, fun _ h => h, fun n _ hg => herr _ _ (.inr hg)⟩

theorem Sat.select (hσ : σ.Lawful) {q : Db S → Option S.Key} {w : World S}
    {Q : Except (Exc A) (Option S.Key) → World S → Prop}
    (hok : ∀ w₂, Grows σ t w w₂ → (∀ k d, q ((w.sess t).apply w₂.db) = some k →
      w₂.db.row k = some d → ∃ e, (w₂.sess t).cache k = some e) →
      Q (.ok (q ((w.sess t).apply w₂.db))) w₂)
    (herr : ∀ e w₂, Clean t w₂ → Q (.error e) w₂) :
    Sat σ t (select q) Q w := by
  refine Sat.reading hσ (fun hop => by cases hop) ?_ herr
  intro w₁ c r w₂ hr _ _ he
  have hs : w₁.view t = (w.sess t).apply w₁.db := by rw [World.view, hr.1.sess]
  simp only [act, execSelect, failed, hs] at he
  split at he
  · cases he
    exact .inl ⟨rfl, _, rfl⟩
  · split at he
    · next hq =>
        cases he
        refine .inr ⟨.refl t _, fun _ h => h, fun n _ hg => ?_⟩
        have := hok _ hg fun k d hk _ => by
          rw [World.tick_db, hq] at hk
          cases hk
        rwa [World.tick_db, hq] at this
    · next k hq =>
        cases he
        refine .inr ⟨.cacheRow t _ k, by simp, fun n _ hg => ?_⟩
        have := hok _ hg (by
          intro j d hj hd
          rw [World.tick_db, World.cacheRow_db] at hj hd
          cases hq.symm.trans hj
          exact cacheRow_cached hd)
        rwa [World.tick_db, World.cacheRow_db, hq] at this

theorem Sat.selectAll (hσ : σ.Lawful) {q : Db S → List S.Key} {w : World S}
    {Q : Except (Exc A) (List S.Key) → World S → Prop}
    (hok : ∀ ks w₂, Grows σ t w w₂ → Q (.ok ks) w₂)
    (herr : ∀ e w₂, Clean t w₂ → Q (.error e) w₂) :
    Sat σ t (selectAll q) Q w := by
  refine Sat.reading hσ nofun (fun w₁ c r w₂ hr hi hc h => ?_) herr
  simp only [act, execSelectAll, failed] at h
  split at h
  · cases h
    exact .inl ⟨rfl, _, rfl⟩
  · cases h
    refine .inr ⟨Loads.cacheRows t _ w₁, fun k hk => ?_, fun n _ hg => hok _ _ hg⟩
    rw [cacheRows_lock]
    exact hk

theorem Sat.query (hσ : σ.Lawful) {α : Type} {q : Db S → α} {w : World S}
    {Q : Except (Exc A) α → World S → Prop}
    (hok : ∀ w₂, Grows σ t w w₂ → w₂.sess t = w.sess t →
      Q (.ok (q ((w.sess t).apply w₂.db))) w₂)
    (herr : ∀ e w₂, Clean t w₂ → Q (.error e) w₂) :
    Sat σ t (query q) Q w := by
  refine Sat.reading hσ nofun ?_ herr
  intro w₁ c r w₂ hr _ _ he
  simp only [act, failed] at he
  split at he
  · cases he
    exact .inl ⟨rfl, _, rfl⟩
  · cases he
    refine .inr ⟨.refl t _, fun _ h => h, fun n _ hg => ?_⟩
    have := hok _ hg hr.1.sess
    rwa [World.tick_db, ← hr.1.sess] at this

theorem Sat.lockRows (hσ : σ.Lawful) {ks : List S.Key} {w : World S}
    {Q : Except (Exc A) Unit → World S → Prop}
    (hok : ∀ w₁ w₂, w₁.sess t = w.sess t → w₁.db = w₂.db → σ.cond t (.lockRows ks) w₁ →
      Loads t w₁ w₂ → σ.inv w₂ → Grows σ t w w₂ → (∀ k ∈ ks, w₂.lock k = some t) →
      (∀ k ∈ ks, ∀ d, w₂.db.row k = some d → ∃ e, (w₂.sess t).cache k = some e) →
      Q (.ok ()) w₂)
    (herr : ∀ e w₂, Clean t w₂ → Q (.error e) w₂) :
    Sat σ t (lockRows ks) Q w := by
  refine Sat.reading hσ nofun ?_ herr
  intro w₁ c r w₂ hr _ hc he
  simp only [act, execLockRows, failed] at he
  split at he
  · cases he
    exact .inl ⟨rfl, _, rfl⟩
  · split at he
    · cases he
      have hl := Loads.lockRows t ks w₁
      refine .inr ⟨hl, fun k hk => lockRows_keeps hk, fun n hi hg => ?_⟩
      refine hok w₁ _ hr.1.sess hl.own.db.symm hc (hl.trans (.of_sess rfl rfl)) hi hg
        (fun k hk => lockRows_locks hk) ?_
      intro k hk d hd
      exact lockRows_cached hk (by rwa [World.tick_db, lockRows_db] at hd)
    · cases he

theorem Sat.lockWhere (hσ : σ.Lawful) {q : Db S → Option S.Key} {w : World S}
    {Q : Except (Exc A) (Option S.Key) → World S → Prop}
    (hnone : ∀ w₂, Grows σ t w w₂ → Q (.ok none) w₂)
    (hsome : ∀ k w₁ w₂, w₁.sess t = w.sess t → w₁.db = w₂.db → Loads t w₁ w₂ →
      σ.inv w₂ → Grows σ t w w₂ → q ((w.sess t).apply w₂.db) = some k → w₂.lock k = some t →
      (∀ d, w₂.db.row k = some d → ∃ e, (w₂.sess t).cache k = some e) →
      Q (.ok (some k)) w₂)
    (herr : ∀ e w₂, Clean t w₂ → Q (.error e) w₂) :
    Sat σ t (lockWhere q) Q w := by
  refine Sat.reading hσ nofun ?_ herr
  intro w₁ c r w₂ hr _ _ he
  have hs : w₁.view t = (w.sess t).apply w₁.db := by rw [World.view, hr.1.sess]
  simp only [act, execLockWhere, failed, hs] at he
  split at he
  · cases he
    exact .inl ⟨rfl, _, rfl⟩
  · split at he
    · cases he
      exact .inr ⟨.refl t _, fun _ h => h, fun n _ hg => hnone _ hg⟩
    · next k hq =>
        split at he
        · cases he
          have hl := Loads.lockRow t w₁ k
          refine .inr ⟨hl, fun j hj => lockRow_keeps hj, fun n hi hg => ?_⟩
          refine hsome k w₁ _ hr.1.sess hl.own.db.symm (hl.trans (.of_sess rfl rfl)) hi hg
            (by simpa using hq) (by simp) ?_
          intro d hd
          exact cacheRow_cached (by rwa [World.tick_db, World.lockRow_db] at hd)
        · cases he

/-- Operations that only answer something. -/
theorem Sat.answer (hσ : σ.Lawful) {o : Op S A} {w : World S}
    {Q : Except (Exc A) (Res S A o) → World S → Prop} (ho : o ≠ .commit)
    (hact : ∀ c w₁ r w₂, act t o c w₁ = some (r, w₂) → w₂ = w₁)
    (h : ∀ c w₁ r w₂, σ.cond t o w₁ → act t o c w₁ = some (r, w₁) → Grows σ t w w₁ →
      Grows σ t w₁ w₂ → Grows σ t w w₂ → w₂.sess t = w.sess t → Q r w₂) :
    Sat σ t (Prog.perform o) Q w := by
  refine Holds.perform fun w₁ hr hi hc c r w' he => ?_
  have hguar : σ.rules.guar t w₁ w' := ⟨fun u hu => exec_frame hu he, .inl (exec_db ho he)⟩
  have hclock := exec_clock he
  obtain ⟨w₂, h₂, rfl⟩ := exec_iff.mp he
  cases hact c w₁ r w₂ h₂
  have hl : Loads t w₁ (w₁.tick c.tick) := .of_sess rfl rfl
  have hg : Grows σ t w₁ (w₁.tick c.tick) := .loads hσ hl (fun _ h => h) hclock
  exact ⟨hguar, hl.inv hσ hi,
    h c w₁ r _ hc h₂ (Grows.rely hr) hg ((Grows.rely hr).trans hσ hg) hr.1.sess⟩

/-- The clock is read in a world that meets the condition. -/
theorem Sat.now (hσ : σ.Lawful) {w : World S} {Q : Except (Exc A) ℤ → World S → Prop}
    (hok : ∀ w₁ w₂, σ.cond t .now w₁ → Grows σ t w w₁ → Grows σ t w₁ w₂ → Q (.ok w₁.clock) w₂) :
    Sat σ t now Q w := by
  refine Sat.answer hσ nofun (fun c w₁ r w₂ he => ?_) fun c w₁ r w₂ hi he hg hg' _ _ => ?_
  · cases he
    rfl
  · cases he
    exact hok w₁ w₂ hi hg hg'

theorem Sat.uuid4 (hσ : σ.Lawful) {w : World S} {Q : Except (Exc A) String → World S → Prop}
    (hok : ∀ u w₂, Grows σ t w w₂ → Q (.ok u) w₂) :
    Sat σ t uuid4 Q w := by
  refine Sat.answer hσ nofun (fun c w₁ r w₂ he => ?_) fun c w₁ r w₂ _ he _ _ hg _ => ?_
  · cases he
    rfl
  · cases he
    exact hok _ _ hg

theorem Sat.ask (hσ : σ.Lawful) {w : World S} {Q : Except (Exc A) Bool → World S → Prop}
    (hok : ∀ b w₂, Grows σ t w w₂ → w₂.sess t = w.sess t → Q (.ok b) w₂) :
    Sat σ t ask Q w := by
  refine Sat.answer hσ nofun (fun c w₁ r w₂ he => ?_) fun c w₁ r w₂ _ he _ _ hg hs => ?_
  · cases he
    rfl
  · cases he
    exact hok _ _ hg hs

theorem Sat.mark (hσ : σ.Lawful) {p : S.Point} {w : World S}
    {Q : Except (Exc A) Unit → World S → Prop}
    (hok : ∀ w₁ w₂, σ.cond t (.mark p) w₁ → Grows σ t w w₂ → Q (.ok ()) w₂) :
    Sat σ t (mark p) Q w := by
  refine Sat.answer hσ nofun (fun c w₁ r w₂ he => ?_) fun c w₁ r w₂ hc he _ _ hg _ => ?_
  · cases he
    rfl
  · cases he
    exact hok w₁ _ hc hg

theorem Sat.check (hσ : σ.Lawful) {a : A} {w : World S}
    {Q : Except (Exc A) Unit → World S → Prop}
    (hok : ∀ w₂, Grows σ t w w₂ → w₂.sess t = w.sess t → Q (.ok ()) w₂)
    (herr : ∀ w₂, Grows σ t w w₂ → w₂.sess t = w.sess t → Q (.error (.app a)) w₂) :
    Sat σ t (check a) Q w := by
  refine Sat.answer hσ nofun (fun c w₁ r w₂ he => ?_) fun c w₁ r w₂ _ he _ _ hg hs => ?_
  · simp only [act] at he
    split at he <;> cases he <;> rfl
  · simp only [act] at he
    split at he <;> cases he
    · exact herr _ hg hs
    · exact hok _ hg hs

/-! ### Changing the session -/

/-- Operations that only replace the thread's own session. -/
theorem Sat.writing (hσ : σ.Lawful) {o : Op S A} {w : World S} (s : Session S) {a : Res S A o}
    {Q : Except (Exc A) (Res S A o) → World S → Prop} (ho : o ≠ .commit)
    (hact : ∀ c w₁, w₁.sess t = w.sess t → act t o c w₁ = some (.ok a, w₁.setSess t s))
    (hs : ∀ w₁, σ.inv w₁ → w₁.sess t = w.sess t → ∀ k (e : Entry S k), s.cache k = some e →
      (k ∉ s.dirty → e.loaded = some e.current) ∧ ∀ l, e.loaded = some l →
        ∃ d, w₁.db.row k = some d ∧ σ.evolves k l d)
    (hok : ∀ w₂, Keeps σ t w w₂ → w₂.sess t = s → Q (.ok a) w₂) :
    Sat σ t (Prog.perform o) Q w := by
  refine Holds.perform fun w₁ hr hi hc c r w' hx => ?_
  have hframe : ∀ u, u ≠ t → Frame u w₁ w' := fun u hu => exec_frame hu hx
  have hclock := exec_clock hx
  have hdb : w'.db = w₁.db := exec_db ho hx
  have hown : Own t w₁ w' := ⟨hdb, fun u hu => (hframe u hu).sess⟩
  obtain ⟨w₂, h₂, rfl⟩ := exec_iff.mp hx
  rw [hact c w₁ hr.1.sess] at h₂
  cases h₂
  have hsess : ((w₁.setSess t s).tick c.tick).sess t = s := World.setSess_sess w₁ t s
  refine ⟨⟨hframe, .inl hdb⟩, ⟨hi.1.of_own hown ?_, hi.2.of_own hown ?_⟩, ?_⟩
  · intro k e he hd
    rw [hsess] at he hd
    exact (hs w₁ hi hr.1.sess k e he).1 hd
  · intro k e l he hl
    rw [hsess] at he
    exact (hs w₁ hi hr.1.sess k e he).2 l hl
  · exact hok _ ((Keeps.rely hr).trans hσ (.of_db hσ rfl (fun _ h => h) hclock)) hsess

theorem Sat.assign (hσ : σ.Lawful) {k : S.Key} {f : S.Row k → S.Row k} {w : World S}
    {e : Entry S k} {Q : Except (Exc A) Unit → World S → Prop}
    (he : (w.sess t).cache k = some e)
    (hok : ∀ w₂, Keeps σ t w w₂ →
      w₂.sess t = (w.sess t).put k { e with current := f e.current } → Q (.ok ()) w₂) :
    Sat σ t (assign k f) Q w := by
  refine Sat.writing hσ ((w.sess t).put k { e with current := f e.current }) nofun ?_ ?_ hok
  · intro c w₁ hw
    simp only [act, execAssign, hw, he]
    rfl
  · intro w₁ hi hw j e' hj
    by_cases hne : j = k
    · subst hne
      rw [Session.put_cache_self] at hj
      cases hj
      exact ⟨fun h => absurd (List.mem_cons_self ..) h, fun l =>
        hi.2 t j e l (by rw [hw]; exact he)⟩
    · rw [Session.put_cache_ne _ hne] at hj
      have hj' : (w₁.sess t).cache j = some e' := by rw [hw]; exact hj
      refine ⟨fun hd => hi.1 t j e' hj' fun hm => hd ?_, fun l => hi.2 t j e' l hj'⟩
      rw [hw] at hm
      exact List.mem_cons_of_mem k hm

theorem Sat.add (hσ : σ.Lawful) {i : S.Ins} {w : World S}
    {Q : Except (Exc A) Unit → World S → Prop}
    (hok : ∀ w₂, Keeps σ t w w₂ →
      w₂.sess t = { w.sess t with new := (w.sess t).new ++ [i] } → Q (.ok ()) w₂) :
    Sat σ t (add i) Q w := by
  refine Sat.writing hσ { w.sess t with new := (w.sess t).new ++ [i] } nofun ?_ ?_ hok
  · intro c w₁ hw
    simp only [act, hw]
  · intro w₁ hi hw k e he
    have he' : (w₁.sess t).cache k = some e := by rw [hw]; exact he
    exact ⟨fun hd => hi.1 t k e he' (by rw [hw]; exact hd), fun l => hi.2 t k e l he'⟩

/-- Reading an attribute of an instance that is not expired cannot fail. -/
theorem Sat.load_bind (hσ : σ.Lawful) (hi : σ.inv w) {k : S.Key} {e : Entry S k}
    {g : S.Row k → Req S A α} {Q : Except (Exc A) α → World S → Prop}
    (he : (w.sess t).cache k = some e)
    (hok : ∀ w₂, σ.inv w₂ → Grows σ t w w₂ → w₂.sess t = w.sess t →
      Sat σ t (g e.current) Q w₂) :
    Sat σ t ((Orm.load k).bind g) Q w := by
  have hact : ∀ c w₁, w₁.sess t = w.sess t →
      act t (Op.load k : Op S A) c w₁ = some (.ok e.current, w₁) := by
    intro c w₁ hs
    simp only [act, execLoad, hs, he]
    rfl
  have hload : Sat σ t (Orm.load k) (fun r w₂ => r = .ok e.current ∧ Grows σ t w w₂ ∧
      w₂.sess t = w.sess t) w := by
    refine Holds.perform fun w₁ hr hi₁ hc c r w' hx => ?_
    have hguar : σ.rules.guar t w₁ w' :=
      ⟨fun u hu => exec_frame hu hx, .inl (exec_db (o := Op.load k) (fun hop => by cases hop) hx)⟩
    have hclock := exec_clock hx
    obtain ⟨w₂, h₂, rfl⟩ := exec_iff.mp hx
    rw [hact c w₁ hr.1.sess] at h₂
    cases h₂
    have hl : Loads t w₁ (w₁.tick c.tick) := .of_sess rfl rfl
    have hg : Grows σ t w₁ (w₁.tick c.tick) := .loads hσ hl (fun _ h => h) hclock
    exact ⟨hguar, hl.inv hσ hi₁, rfl, (Grows.rely hr).trans hσ hg, hr.1.sess⟩
  refine Holds.bind (Holds.with_inv hload hi) ?_ fun _ _ h => absurd h.2.1 (fun heq => by cases heq)
  rintro a w₂ ⟨hi₂, ha, hg, hs⟩
  cases ha
  exact hok w₂ hi₂ hg hs

theorem Sat.assign_bind (hσ : σ.Lawful) (hi : σ.inv w) {k : S.Key} {f : S.Row k → S.Row k}
    {e : Entry S k} {g : Unit → Req S A α} {Q : Except (Exc A) α → World S → Prop}
    (he : (w.sess t).cache k = some e)
    (hok : ∀ w₂, σ.inv w₂ → Keeps σ t w w₂ →
      w₂.sess t = (w.sess t).put k { e with current := f e.current } → Sat σ t (g ()) Q w₂) :
    Sat σ t ((Orm.assign k f).bind g) Q w := by
  refine Holds.bind (Holds.with_inv (Sat.assign hσ (Q := fun r w₂ => r = .ok () ∧ Keeps σ t w w₂ ∧
    w₂.sess t = (w.sess t).put k { e with current := f e.current }) he
    fun w₂ hk hs => ⟨rfl, hk, hs⟩) hi) ?_ fun _ _ h => nomatch h.2.1
  exact fun _ w₂ h => hok w₂ h.1 h.2.2.1 h.2.2.2

theorem Sat.add_bind (hσ : σ.Lawful) (hi : σ.inv w) {i : S.Ins} {g : Unit → Req S A α}
    {Q : Except (Exc A) α → World S → Prop}
    (hok : ∀ w₂, σ.inv w₂ → Keeps σ t w w₂ →
      w₂.sess t = { w.sess t with new := (w.sess t).new ++ [i] } → Sat σ t (g ()) Q w₂) :
    Sat σ t ((Orm.add i).bind g) Q w := by
  refine Holds.bind (Holds.with_inv (Sat.add hσ (Q := fun r w₂ => r = .ok () ∧ Keeps σ t w w₂ ∧
    w₂.sess t = { w.sess t with new := (w.sess t).new ++ [i] })
    fun w₂ hk hs => ⟨rfl, hk, hs⟩) hi) ?_ fun _ _ h => nomatch h.2.1
  exact fun _ w₂ h => hok w₂ h.1 h.2.2.1 h.2.2.2

theorem Sat.rollback {w : World S} {Q : Except (Exc A) Unit → World S → Prop}
    (hok : ∀ w₂, Clean t w₂ → Q (.ok ()) w₂) : Sat σ t rollback Q w := by
  refine Holds.perform fun w₁ hr hi hc c r w' hx => ?_
  have hframe : ∀ u, u ≠ t → Frame u w₁ w' := fun u hu => exec_frame hu hx
  have hclock := exec_clock hx
  have hdb : w'.db = w₁.db := exec_db (o := Op.rollback) nofun hx
  obtain ⟨w₂, h₂, rfl⟩ := exec_iff.mp hx
  cases h₂
  exact ⟨⟨hframe, .inl hdb⟩, inv_release hi hdb (fun u hu => (hframe u hu).sess)
    (World.release_sess _ _), hok _ (clean_release _ _ _)⟩

theorem act_commit_cases {c : Choice} {w w' : World S} {r : Except (Exc A) Unit}
    (h : act t (Op.commit : Op S A) c w = some (r, w')) :
    (∃ e, w' = w.release t ∧ r = .error (.db e)) ∨
    ((w.sess t).dirty.all (w.free t) = true ∧ (w.sess t).admissible w.db = true ∧
      w' = ({ w with db := w.view t }).release t ∧ r = .ok ()) := by
  change execCommit t c w = _ at h
  unfold execCommit at h
  by_cases hf : c.fail = true
  · rw [if_pos hf] at h
    cases h
    exact .inl ⟨_, rfl, rfl⟩
  · rw [if_neg hf] at h
    by_cases hd : (w.sess t).dirty.all (w.free t) = true
    · rw [if_pos hd] at h
      by_cases ha : (w.sess t).admissible w.db = true
      · rw [if_pos ha] at h
        cases h
        exact .inr ⟨hd, ha, rfl, rfl⟩
      · rw [if_neg ha] at h
        cases h
        exact .inl ⟨_, rfl, rfl⟩
    · rw [if_neg hd] at h
      cases h

/-- The one place where the committed state changes. -/
theorem Sat.commit (hσ : σ.Lawful) {w : World S} {Q : Except (Exc A) Unit → World S → Prop}
    (hcommits : ∀ w₁, σ.rules.rely t w w₁ → σ.inv w₁ → σ.cond t .commit w₁ →
      (w₁.sess t).dirty.all (w₁.free t) = true → (w₁.sess t).admissible w₁.db = true →
      w₁.view t = w₁.db ∨ σ.commits t w₁ (w₁.view t))
    (hok : ∀ w₁ w₂, σ.rules.rely t w w₁ → σ.inv w₁ → w₂.db = w₁.view t → Clean t w₂ →
      Q (.ok ()) w₂)
    (herr : ∀ e w₂, Clean t w₂ → Q (.error (.db e)) w₂) : Sat σ t commit Q w := by
  refine Holds.perform fun w₁ hr hi hc c r w' hx => ?_
  have hframe : ∀ u, u ≠ t → Frame u w₁ w' := fun u hu => exec_frame hu hx
  have hclock := exec_clock hx
  obtain ⟨w₂, h₂, rfl⟩ := exec_iff.mp hx
  rcases act_commit_cases h₂ with ⟨e, rfl, rfl⟩ | ⟨hfree, hadm, rfl, rfl⟩
  · exact ⟨⟨hframe, .inl rfl⟩, inv_release hi rfl (fun u hu => (hframe u hu).sess)
      (World.release_sess _ _), herr e _ (clean_release _ _ _)⟩
  · have hview := hcommits w₁ hr hi hc hfree hadm
    refine ⟨⟨hframe, hview⟩, ⟨?_, ?_⟩, hok w₁ _ hr hi rfl (clean_release _ _ _)⟩
    · intro u k e he hd
      by_cases hu : u = t
      · subst hu
        rw [clean_release] at he
        cases he
      · rw [(hframe u hu).sess] at he hd
        exact hi.1 u k e he hd
    · intro u k e l he hl
      by_cases hu : u = t
      · subst hu
        rw [clean_release] at he
        cases he
      · rw [(hframe u hu).sess] at he
        obtain ⟨d, hd, ha⟩ := hi.2 u k e l he hl
        rcases hview with hsame | hcom
        · exact ⟨d, by rw [← hd, ← hsame]; rfl, ha⟩
        · obtain ⟨d', hd', ha'⟩ := hσ.commits_evolves t _ _ hcom k d hd
          exact ⟨d', hd', hσ.evolves_trans k _ _ _ ha ha'⟩

end Laws

/-! ### Programs that do not change the session -/

/-- On return the thread has only read, and knows `Post`; on the way to an
exception it may have committed. -/
def Finds (σ : StepSpec S A) (t : ℕ) (p : Req S A α) (Post : α → World S → Prop)
    (w : World S) : Prop :=
  Sat σ t p (fun r w' => match r with
    | .ok a => Grows σ t w w' ∧ Post a w'
    | .error _ => Settled σ t w') w

def Quiet (σ : StepSpec S A) (p : Req S A α) : Prop :=
  ∀ t w, Settled σ t w → Sat σ t p (fun _ w' => Settled σ t w') w

/-- A `Quiet` program that does not return. -/
def Fails (σ : StepSpec S A) (p : Req S A α) : Prop :=
  ∀ t w, Settled σ t w →
    Sat σ t p (fun r w' => (∃ e, r = .error e) ∧ Settled σ t w') w

section Programs

variable {σ : StepSpec S A} {t : ℕ} {w : World S}

namespace Finds

theorem mono {p : Req S A α} {Post Post' : α → World S → Prop} (h : Finds σ t p Post w)
    (hp : ∀ a w', Grows σ t w w' → Post a w' → Post' a w') : Finds σ t p Post' w := by
  refine Holds.mono h fun r w' hr => ?_
  cases r with
  | ok a => exact ⟨hr.1, hp a w' hr.1 hr.2⟩
  | error e => exact hr

theorem ret (hσ : σ.Lawful) {a : α} {Post : α → World S → Prop} (h : Post a w) :
    Finds σ t (.ret a : Req S A α) Post w := ⟨Grows.refl hσ w, h⟩

theorem raise (e : Exc A) {Post : α → World S → Prop} (hs : Settled σ t w) :
    Finds σ t (.raise e : Req S A α) Post w := hs

theorem bind (hσ : σ.Lawful) (hi : σ.inv w) {p : Req S A α} {f : α → Req S A β}
    {Post : α → World S → Prop} {Post' : β → World S → Prop} (hp : Finds σ t p Post w)
    (hf : ∀ a w', σ.inv w' → Grows σ t w w' → Post a w' → Finds σ t (f a) Post' w') :
    Finds σ t (p.bind f) Post' w := by
  refine Holds.bind (Holds.with_inv hp hi) (fun a w' h => ?_) fun e w' h => h.2
  refine Holds.mono (hf a w' h.1 h.2.1 h.2.2) fun r w'' h' => ?_
  cases r with
  | ok b => exact ⟨h.2.1.trans hσ h'.1, h'.2⟩
  | error e => exact h'

/-- A program that changes the session follows one that does not. -/
theorem then_sat (hi : σ.inv w) {p : Req S A α} {f : α → Req S A β}
    {Post : α → World S → Prop} {Q : Except (Exc A) β → World S → Prop}
    (hp : Finds σ t p Post w)
    (hf : ∀ a w', σ.inv w' → Grows σ t w w' → Post a w' → Sat σ t (f a) Q w')
    (herr : ∀ e w', Settled σ t w' → Q (.error e) w') : Sat σ t (p.bind f) Q w :=
  Holds.bind (Holds.with_inv hp hi) (fun a w' h => hf a w' h.1 h.2.1 h.2.2)
    fun e w' h => herr e w' h.2

/-- A handler that raises again. -/
theorem tryCatch {p : Req S A α} {h : Exc A → Req S A α} {Post : α → World S → Prop}
    (hp : Finds σ t p Post w) (hh : ∀ e, Fails σ (h e)) :
    Finds σ t (p.tryCatch h) Post w := by
  refine Holds.tryCatch hp (fun a w' h' => h') fun e w' h' => ?_
  refine Holds.mono (hh e t w' h') fun r w'' hr => ?_
  obtain ⟨⟨e', rfl⟩, hs⟩ := hr
  exact hs

theorem load (hσ : σ.Lawful) (hs : Settled σ t w) (k : S.Key) :
    Finds σ t (load k : Req S A _) (fun r w' => Instance t w' k r) w := by
  refine Sat.load hσ (fun e w₂ hi hg he _ => ⟨hg, e, he, rfl, fun hd => ?_⟩) fun e w₂ h => ?_
  · exact hi.1 t k e he hd
  rcases h with h | h
  · exact h.settled
  · exact hs.grows hσ h

theorem load_copy (hσ : σ.Lawful) (hs : Settled σ t w) {k : S.Key}
    (hd : k ∉ (w.sess t).dirty) :
    Finds σ t (Orm.load k : Req S A _) (fun r w' => Copy t w' k r) w :=
  (load hσ hs k).mono fun _ _ hg h => h.copy (by rwa [hg.dirty])

theorem load_known (hσ : σ.Lawful) (hs : Settled σ t w) {k : S.Key} {x : S.Row k}
    (hx : Copy t w k x) : Finds σ t (Orm.load k : Req S A _) (fun r _ => r = x) w :=
  (load hσ hs k).mono fun _ _ hg h => h.eq_of_copy (hx.grows hg)

/-- An instance that is not there is read from the row. -/
theorem load_fresh (hσ : σ.Lawful) (hs : Settled σ t w) {k : S.Key}
    (hk : (w.sess t).cache k = none) :
    Finds σ t (Orm.load k : Req S A _) (fun r w' => w'.db.row k = some r) w := by
  refine Sat.load hσ (fun e w₂ hi hg he hrow => ⟨hg, hrow hk⟩) fun e w₂ h => ?_
  rcases h with h | h
  · exact h.settled
  · exact hs.grows hσ h

theorem select (hσ : σ.Lawful) (q : Db S → Option S.Key) :
    Finds σ t (select q : Req S A _) (fun r w' => r = q ((w.sess t).apply w'.db) ∧
      ∀ k d, r = some k → w'.db.row k = some d → ∃ e, (w'.sess t).cache k = some e) w :=
  Sat.select hσ (fun _ hg h => ⟨hg, rfl, h⟩) fun _ _ h => h.settled

/-- The rows are locked. Each has an instance in the session: the one that was
there, or a copy of the row. -/
theorem lockRows (hσ : σ.Lawful) (ks : List S.Key) :
    Finds σ t (lockRows ks : Req S A Unit) (fun _ w' =>
      (∀ k ∈ ks, w'.lock k = some t) ∧
      (∀ k ∈ ks, ∀ d, w'.db.row k = some d → k ∉ (w.sess t).dirty →
        Copy t w' k (((w.sess t).cache k).elim d Entry.current)) ∧
      ∃ w₁, w₁.sess t = w.sess t ∧ w₁.db = w'.db ∧ σ.cond t (.lockRows ks) w₁) w := by
  refine Sat.lockRows hσ ?_ fun _ _ h => h.settled
  intro w₁ w₂ hs hdb hc hl hi hg hlock hcached
  refine ⟨hg, hlock, fun k hk d hd hdirty => ?_, w₁, hs, hdb, hc⟩
  obtain ⟨e, he⟩ := hcached k hk d hd
  exact hl.copy hs hdb hi.1 he hd hdirty

theorem lockWhere (hσ : σ.Lawful) (q : Db S → Option S.Key) :
    Finds σ t (lockWhere q : Req S A _) (fun r w' => ∀ k, r = some k →
      w'.lock k = some t ∧ q ((w.sess t).apply w'.db) = some k ∧
      ∀ d, w'.db.row k = some d → k ∉ (w.sess t).dirty →
        Copy t w' k (((w.sess t).cache k).elim d Entry.current)) w := by
  refine Sat.lockWhere hσ (fun w₂ hg => ⟨hg, nofun⟩) ?_ fun _ _ h => h.settled
  intro k w₁ w₂ hs hdb hl hi hg hq hlock hcached
  refine ⟨hg, ?_⟩
  rintro k' hk'
  cases hk'
  refine ⟨hlock, hq, fun d hd hdirty => ?_⟩
  obtain ⟨e, he⟩ := hcached d hd
  exact hl.copy hs hdb hi.1 he hd hdirty

theorem query (hσ : σ.Lawful) {γ : Type} (q : Db S → γ) :
    Finds σ t (query q : Req S A γ) (fun r w' => r = q ((w.sess t).apply w'.db)) w :=
  Sat.query hσ (fun _ hg _ => ⟨hg, rfl⟩) fun _ _ h => h.settled

theorem now (hσ : σ.Lawful) : Finds σ t (now : Req S A ℤ)
    (fun c w' => ∃ w₁, σ.cond t .now w₁ ∧ Grows σ t w w₁ ∧ Grows σ t w₁ w' ∧ c = w₁.clock) w :=
  Sat.now hσ fun w₁ _ hi hg hg' => ⟨hg.trans hσ hg', w₁, hi, hg, hg', rfl⟩

theorem uuid4 (hσ : σ.Lawful) : Finds σ t (uuid4 : Req S A String) (fun _ _ => True) w :=
  Sat.uuid4 hσ fun _ _ hg => ⟨hg, trivial⟩

theorem ask (hσ : σ.Lawful) : Finds σ t (ask : Req S A Bool) (fun _ _ => True) w :=
  Sat.ask hσ fun _ _ hg _ => ⟨hg, trivial⟩

theorem mark (hσ : σ.Lawful) (p : S.Point) :
    Finds σ t (mark p : Req S A Unit) (fun _ _ => ∃ w₁, σ.cond t (.mark p) w₁) w :=
  Sat.mark hσ fun w₁ _ hc hg => ⟨hg, w₁, hc⟩

theorem check (hσ : σ.Lawful) (hs : Settled σ t w) (a : A) :
    Finds σ t (check a : Req S A Unit) (fun _ _ => True) w :=
  Sat.check hσ (fun _ hg _ => ⟨hg, trivial⟩) fun _ hg _ => hs.grows hσ hg

/-- A rejecting branch may commit: it does not return. -/
theorem of_fails {p : Req S A α} (hp : Fails σ p) (hs : Settled σ t w)
    {Post : α → World S → Prop} : Finds σ t p Post w := by
  refine Holds.mono (hp t w hs) fun r w' hr => ?_
  obtain ⟨⟨e', rfl⟩, hs'⟩ := hr
  exact hs'

theorem sat (hσ : σ.Lawful) {p : Req S A α} {Post : α → World S → Prop}
    (h : Finds σ t p Post w) (hs : Settled σ t w) :
    Sat σ t p (fun _ w' => Settled σ t w') w := by
  refine Holds.mono h fun r w' hr => ?_
  cases r with
  | ok a => exact hs.grows hσ hr.1
  | error e => exact hr

end Finds

namespace Quiet

theorem of_finds (hσ : σ.Lawful) {p : Req S A α}
    (h : ∀ t w, Settled σ t w → Finds σ t p (fun _ _ => True) w) : Quiet σ p :=
  fun t w hs => (h t w hs).sat hσ hs

theorem ret (a : α) : Quiet σ (.ret a : Req S A α) := fun _ _ h => h

theorem raise (e : Exc A) : Quiet σ (.raise e : Req S A α) := fun _ _ h => h

theorem bind {p : Req S A α} {f : α → Req S A β} (hp : Quiet σ p) (hf : ∀ a, Quiet σ (f a)) :
    Quiet σ (p.bind f) :=
  fun t w hs => Holds.bind (hp t w hs) (fun a w' h => hf a t w' h) fun _ _ h => h

theorem tryCatch {p : Req S A α} {h : Exc A → Req S A α} (hp : Quiet σ p)
    (hh : ∀ e, Quiet σ (h e)) : Quiet σ (p.tryCatch h) :=
  fun t w hs => Holds.tryCatch (hp t w hs) (fun _ _ h' => h') fun e w' h' => hh e t w' h'

theorem load (hσ : σ.Lawful) (k : S.Key) : Quiet σ (load k : Req S A _) :=
  of_finds hσ fun _ _ hs => (Finds.load hσ hs k).mono fun _ _ _ _ => trivial

theorem select (hσ : σ.Lawful) (q : Db S → Option S.Key) : Quiet σ (select q : Req S A _) :=
  of_finds hσ fun _ _ _ => (Finds.select hσ q).mono fun _ _ _ _ => trivial

theorem query (hσ : σ.Lawful) {γ : Type} (q : Db S → γ) : Quiet σ (query q : Req S A γ) :=
  of_finds hσ fun _ _ _ => (Finds.query hσ q).mono fun _ _ _ _ => trivial

theorem now (hσ : σ.Lawful) : Quiet σ (now : Req S A ℤ) :=
  of_finds hσ fun _ _ _ => (Finds.now hσ).mono fun _ _ _ _ => trivial

theorem ask (hσ : σ.Lawful) : Quiet σ (ask : Req S A Bool) :=
  of_finds hσ fun _ _ _ => Finds.ask hσ

theorem mark (hσ : σ.Lawful) (p : S.Point) : Quiet σ (mark p : Req S A Unit) :=
  of_finds hσ fun _ _ _ => (Finds.mark hσ p).mono fun _ _ _ _ => trivial

theorem check (hσ : σ.Lawful) (a : A) : Quiet σ (check a : Req S A Unit) :=
  of_finds hσ fun _ _ hs => Finds.check hσ hs a

theorem commit (hσ : σ.Lawful) : Quiet σ (commit : Req S A Unit) := fun _ _ hs =>
  Sat.commit hσ (fun _ hr hi hc _ hadm => hs.commits hσ (.rely hr) hi hc hadm)
    (fun _ _ _ _ _ h => h.settled) fun _ _ h => h.settled

theorem rollback : Quiet σ (rollback : Req S A Unit) :=
  fun _ _ _ => Sat.rollback fun _ h => h.settled

end Quiet

namespace Fails

theorem raise (e : Exc A) : Fails σ (.raise e : Req S A α) := fun _ _ h => ⟨⟨e, rfl⟩, h⟩

theorem bind {p : Req S A α} {f : α → Req S A β} (hp : Quiet σ p) (hf : ∀ a, Fails σ (f a)) :
    Fails σ (p.bind f) :=
  fun t w hs => Holds.bind (hp t w hs) (fun a w' h => hf a t w' h) fun e _ h => ⟨⟨e, rfl⟩, h⟩

end Fails

/-! ### Programs that end transactions -/

/-- On return `Post` holds; after an exception the session can be committed as
it stands. -/
def Yields (σ : StepSpec S A) (t : ℕ) (p : Req S A α) (Post : α → World S → Prop)
    (w : World S) : Prop :=
  Sat σ t p (fun r w' => match r with
    | .ok a => Post a w'
    | .error _ => Settled σ t w') w

/-- From a session without changes to a session without changes. -/
def Tame (σ : StepSpec S A) (p : Req S A α) : Prop :=
  ∀ t w, σ.inv w → Idle t w → Yields σ t p (fun _ w' => Idle t w') w

namespace Yields

theorem mono {p : Req S A α} {Post Post' : α → World S → Prop} (h : Yields σ t p Post w)
    (hp : ∀ a w', Post a w' → Post' a w') : Yields σ t p Post' w := by
  refine Holds.mono h fun r w' hr => ?_
  cases r with
  | ok a => exact hp a w' hr
  | error e => exact hr

theorem bind (hi : σ.inv w) {p : Req S A α} {f : α → Req S A β}
    {P : α → World S → Prop} {Q : β → World S → Prop} (hp : Yields σ t p P w)
    (hf : ∀ a w', σ.inv w' → P a w' → Yields σ t (f a) Q w') :
    Yields σ t (p.bind f) Q w :=
  Holds.bind (Holds.with_inv hp hi) (fun a w' h => hf a w' h.1 h.2) fun _ _ h => h.2

theorem of_finds {p : Req S A α} {P Post' : α → World S → Prop} (h : Finds σ t p P w)
    (hp : ∀ a w', Grows σ t w w' → P a w' → Post' a w') : Yields σ t p Post' w := by
  refine Holds.mono h fun r w' hr => ?_
  cases r with
  | ok a => exact hp a w' hr.1 hr.2
  | error e => exact hr

/-- A program that only reads comes first. -/
theorem after (hi : σ.inv w) {p : Req S A α} {f : α → Req S A β}
    {Post : α → World S → Prop} {Post' : β → World S → Prop} (hp : Finds σ t p Post w)
    (hf : ∀ a w', σ.inv w' → Grows σ t w w' → Post a w' → Yields σ t (f a) Post' w') :
    Yields σ t (p.bind f) Post' w :=
  hp.then_sat hi hf fun _ _ h => h

theorem assign_bind (hσ : σ.Lawful) (hi : σ.inv w) {k : S.Key} {f : S.Row k → S.Row k}
    {e : Entry S k} {g : Unit → Req S A α} {Post : α → World S → Prop}
    (he : (w.sess t).cache k = some e)
    (hok : ∀ w₂, σ.inv w₂ → Keeps σ t w w₂ →
      w₂.sess t = (w.sess t).put k { e with current := f e.current } →
      Yields σ t (g ()) Post w₂) :
    Yields σ t ((Orm.assign k f).bind g) Post w :=
  Sat.assign_bind hσ hi he hok

theorem of_fails {p : Req S A α} (hp : Fails σ p) (hs : Settled σ t w)
    {Post : α → World S → Prop} : Yields σ t p Post w := by
  refine Holds.mono (hp t w hs) ?_
  rintro r w' ⟨⟨e, rfl⟩, h⟩
  exact h

theorem quiet {p : Req S A α} (hp : Quiet σ p) (hs : Settled σ t w) :
    Yields σ t p (fun _ w' => Settled σ t w') w := by
  refine Holds.mono (hp t w hs) fun r w' hr => ?_
  cases r <;> exact hr

theorem sat {p : Req S A α} (h : Yields σ t p (fun _ w' => Settled σ t w') w) :
    Sat σ t p (fun _ w' => Settled σ t w') w := by
  refine Holds.mono h fun r w' hr => ?_
  cases r <;> exact hr

/-- A commit of a settled session. -/
theorem commit (hσ : σ.Lawful) (hs : Settled σ t w) :
    Yields σ t (Orm.commit : Req S A Unit) (fun _ w' => Clean t w') w :=
  Sat.commit hσ (fun _ hr hi hc _ hadm => hs.commits hσ (.rely hr) hi hc hadm)
    (fun _ _ _ _ _ h => h) fun _ _ h => h.settled

theorem rollback :
    Yields σ t (Orm.rollback : Req S A Unit) (fun _ w' => Clean t w') w :=
  Sat.rollback fun _ h => h

end Yields

namespace Tame

theorem of_finds {p : Req S A α}
    (h : ∀ t w, σ.inv w → Settled σ t w → Finds σ t p (fun _ _ => True) w) : Tame σ p :=
  fun t w hi hidle => Yields.of_finds (h t w hi (.inl hidle)) fun _ _ hg _ => hidle.grows hg

theorem of_fails {p : Req S A α} (hp : Fails σ p) : Tame σ p :=
  fun _ _ _ hidle => Yields.of_fails hp (.inl hidle)

theorem ret (a : α) : Tame σ (.ret a : Req S A α) := fun _ _ _ h => h

theorem bind {p : Req S A α} {f : α → Req S A β} (hp : Tame σ p) (hf : ∀ a, Tame σ (f a)) :
    Tame σ (p.bind f) :=
  fun t w hi hidle => (hp t w hi hidle).bind hi fun a w' hi' h => hf a t w' hi' h

/-- A handler that starts from what an exception leaves. -/
theorem tryCatch {p : Req S A α} {h : Exc A → Req S A α} (hp : Tame σ p)
    (hh : ∀ e t w, Settled σ t w → Yields σ t (h e) (fun _ w' => Idle t w') w) :
    Tame σ (p.tryCatch h) :=
  fun t w hi hidle => Holds.tryCatch (hp t w hi hidle) (fun _ _ h' => h') fun e w' h' =>
    hh e t w' h'

theorem load (hσ : σ.Lawful) (k : S.Key) : Tame σ (load k : Req S A _) :=
  of_finds fun _ _ _ hs => (Finds.load hσ hs k).mono fun _ _ _ _ => trivial

theorem ask (hσ : σ.Lawful) : Tame σ (ask : Req S A Bool) := of_finds fun _ _ _ _ => Finds.ask hσ

theorem check (hσ : σ.Lawful) (a : A) : Tame σ (check a : Req S A Unit) :=
  of_finds fun _ _ _ hs => Finds.check hσ hs a

end Tame

/-! ### Programs whose failures are rolled back -/

/-- On return the thread has only read; nothing is known of the session after
an exception. -/
def Reads (σ : StepSpec S A) (t : ℕ) (p : Req S A α) (w : World S) : Prop :=
  Sat σ t p (fun r w' => match r with
    | .ok _ => Grows σ t w w'
    | .error _ => True) w

namespace Reads

theorem bind (hσ : σ.Lawful) {p : Req S A α} {f : α → Req S A β} (hp : Reads σ t p w)
    (hf : ∀ a w', Reads σ t (f a) w') : Reads σ t (p.bind f) w := by
  refine Holds.bind hp (fun a w' hg => ?_) fun _ _ _ => trivial
  refine Holds.mono (hf a w') fun r w'' h => ?_
  cases r with
  | ok b => exact Grows.trans hσ hg h
  | error e => trivial

theorem tryCatch_raise {p : Req S A α} (hp : Reads σ t p w) (a : A) :
    Reads σ t (p.tryCatch fun _ => Orm.raise a) w :=
  Holds.tryCatch hp (fun _ _ h => h) fun _ _ _ => trivial

theorem load (hσ : σ.Lawful) (k : S.Key) : Reads σ t (load k : Req S A _) w :=
  Sat.load hσ (fun _ _ _ hg _ _ => hg) fun _ _ _ => trivial

theorem query (hσ : σ.Lawful) {γ : Type} (q : Db S → γ) : Reads σ t (query q : Req S A γ) w :=
  Sat.query hσ (fun _ hg _ => hg) fun _ _ _ => trivial

theorem check (hσ : σ.Lawful) (a : A) : Reads σ t (check a : Req S A Unit) w :=
  Sat.check hσ (fun _ hg _ => hg) fun _ _ _ => trivial

theorem now (hσ : σ.Lawful) : Reads σ t (now : Req S A ℤ) w :=
  Sat.now hσ fun _ _ _ hg hg' => hg.trans hσ hg'

end Reads

/-! ### Passive programs -/

theorem Quiet.perform (hσ : σ.Lawful) {o : Op S A} (ho : o.passive) :
    Quiet σ (Prog.perform o : Req S A (Res S A o)) := by
  cases o with
  | load k => exact Quiet.load hσ k
  | select q => exact Quiet.select hσ q
  | selectAll q =>
      exact Quiet.of_finds hσ fun _ _ _ => Sat.selectAll hσ (fun _ _ hg => ⟨hg, trivial⟩)
        fun _ _ h => h.settled
  | lockRows ks =>
      exact Quiet.of_finds hσ fun _ _ _ => (Finds.lockRows hσ ks).mono fun _ _ _ _ => trivial
  | lockWhere q =>
      exact Quiet.of_finds hσ fun _ _ _ => (Finds.lockWhere hσ q).mono fun _ _ _ _ => trivial
  | query γ q => exact Quiet.query hσ q
  | commit => exact Quiet.commit hσ
  | rollback => exact Quiet.rollback
  | now => exact Quiet.now hσ
  | uuid4 => exact Quiet.of_finds hσ fun _ _ _ => Finds.uuid4 hσ
  | ask => exact Quiet.ask hσ
  | check a => exact Quiet.check hσ a
  | assign k f => exact ho.elim
  | addRow k r => exact ho.elim
  | add i => exact ho.elim
  | mark p => exact ho.elim

/-- All that a passive program can commit is what the session already holds. -/
theorem Passive.quiet (hσ : σ.Lawful) {p : Req S A α} (hp : Passive p) : Quiet σ p := by
  induction p with
  | ret a => exact Quiet.ret a
  | raise e => exact Quiet.raise e
  | op o k ih =>
      intro t w hs w₁ hr hi hc c r w₂ he
      obtain ⟨hg, hi₂, h₂⟩ := Quiet.perform hσ hp.1 t w hs w₁ hr hi hc c r w₂ he
      refine ⟨hg, hi₂, ih r (hp.2 r) t w₂ ?_⟩
      cases r <;> exact h₂

theorem Idle.perform (hσ : σ.Lawful) {o : Op S A} (ho : o.passive) (h : Idle t w) :
    Sat σ t (Prog.perform o : Req S A (Res S A o)) (fun _ w' => Idle t w') w := by
  have grows : ∀ {w'}, Grows σ t w w' → Idle t w' := fun hg => h.grows hg
  have clean : ∀ {w' : World S}, Clean t w' → Idle t w' := fun hc => hc.idle
  cases o with
  | load k =>
      exact Sat.load hσ (fun _ _ _ hg _ _ => grows hg) fun _ _ h' => h'.elim clean grows
  | select q => exact Sat.select hσ (fun _ hg _ => grows hg) fun _ _ => clean
  | selectAll q => exact Sat.selectAll hσ (fun _ _ => grows) fun _ _ => clean
  | lockRows ks =>
      exact Sat.lockRows hσ (fun _ _ _ _ _ _ _ hg _ _ => grows hg) fun _ _ => clean
  | lockWhere q =>
      exact Sat.lockWhere hσ (fun _ => grows) (fun _ _ _ _ _ _ _ hg _ _ _ => grows hg)
        fun _ _ => clean
  | query γ q => exact Sat.query hσ (fun _ hg _ => grows hg) fun _ _ => clean
  | commit =>
      refine Sat.commit hσ (fun w₁ hr _ _ _ _ => .inl (view_idle (grows (.rely hr))))
        (fun _ _ _ _ _ => clean) fun _ _ => clean
  | rollback => exact Sat.rollback fun _ => clean
  | now => exact Sat.now hσ fun _ _ _ hg hg' => grows (hg.trans hσ hg')
  | uuid4 => exact Sat.uuid4 hσ fun _ _ => grows
  | ask => exact Sat.ask hσ fun _ _ hg _ => grows hg
  | check a => exact Sat.check hσ (fun _ hg _ => grows hg) fun _ hg _ => grows hg
  | assign k f => exact ho.elim
  | addRow k r => exact ho.elim
  | add i => exact ho.elim
  | mark p => exact ho.elim

/-- A passive program does not change a session without changes. -/
theorem Passive.idle (hσ : σ.Lawful) {p : Req S A α} (hp : Passive p) (h : Idle t w) :
    Sat σ t p (fun _ w' => Idle t w') w := by
  induction p generalizing w with
  | ret a => exact h
  | raise e => exact h
  | op o k ih =>
      intro w₁ hr hi hc c r w₂ he
      obtain ⟨hg, hi₂, h₂⟩ := Idle.perform hσ hp.1 h w₁ hr hi hc c r w₂ he
      refine ⟨hg, hi₂, ih r (hp.2 r) ?_⟩
      cases r <;> exact h₂

theorem Passive.tame (hσ : σ.Lawful) {p : Req S A α} (hp : Passive p) : Tame σ p := by
  intro t w _ h
  refine Holds.mono (hp.idle hσ h) fun r w' hw => ?_
  cases r with
  | ok a => exact hw
  | error e => exact .inl hw

/-- A commit that is followed by a program for a new transaction. -/
theorem Quiet.commit_bind (hσ : σ.Lawful) {f : Unit → Req S A α} (hf : Tame σ (f ())) :
    Quiet σ (Orm.commit.bind f) := by
  intro t w hs
  have hcommit : Sat σ t (Orm.commit : Req S A Unit) (fun r w' => σ.inv w' ∧ match r with
      | .ok _ => Clean t w'
      | .error _ => Settled σ t w') w := by
    refine Holds.perform fun w₁ hr hi hc c r w₂ he => ?_
    obtain ⟨hg, hi₂, h₂⟩ := Yields.commit hσ hs w₁ hr hi hc c r w₂ he
    refine ⟨hg, hi₂, hi₂, ?_⟩
    cases r <;> exact h₂
  refine Holds.bind hcommit (fun _ w' h => ?_) fun _ _ h => h.2
  exact ((hf t w' h.1 h.2.idle).mono fun _ _ h' => .inl h').sat

end Programs

end SitBank.Orm
