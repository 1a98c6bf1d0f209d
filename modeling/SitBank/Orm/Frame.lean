import Mathlib.Algebra.Order.Ring.Int
import SitBank.Orm.Session

/-!
What a step of one session leaves alone in the others, and the rely/guarantee
rules for programs over a store.

`Frame u` is what thread `u` can count on while the others run: its own session,
its locks, the committed version of the rows it has locked, and that the log and
the clock only grow. Every operation of another thread respects it
(`exec_frame`), whatever the program is; an application adds what its own
commits guarantee (`StepSpec`).
-/

namespace SitBank.Orm

open SitBank.Interaction

variable {S : Schema} {A : Type}

/-- What thread `u` keeps while other threads act. -/
structure Frame (u : ℕ) (w w' : World S) : Prop where
  sess : w'.sess u = w.sess u
  lock : ∀ k, w'.lock k = some u ↔ w.lock k = some u
  row : ∀ k, w.lock k = some u → w'.db.row k = w.db.row k
  log : ∃ l, w'.db.log = w.db.log ++ l
  clock : w.clock ≤ w'.clock

namespace Frame

theorem refl (u : ℕ) (w : World S) : Frame u w w :=
  ⟨rfl, fun _ => Iff.rfl, fun _ _ => rfl, ⟨[], by simp⟩, le_rfl⟩

theorem trans {u : ℕ} {w₁ v w₃ : World S} (h : Frame u w₁ v) (h' : Frame u v w₃) :
    Frame u w₁ w₃ where
  sess := h'.sess.trans h.sess
  lock k := (h'.lock k).trans (h.lock k)
  row k hk := (h'.row k ((h.lock k).mpr hk)).trans (h.row k hk)
  log := by
    obtain ⟨l, hl⟩ := h.log
    obtain ⟨l', hl'⟩ := h'.log
    exact ⟨l ++ l', by rw [hl', hl, List.append_assoc]⟩
  clock := le_trans h.clock h'.clock

/-- A step that touches neither the committed state nor what `u` owns. -/
theorem of_db {u : ℕ} {w w' : World S} (hdb : w'.db = w.db) (hs : w'.sess u = w.sess u)
    (hl : ∀ k, w'.lock k = some u ↔ w.lock k = some u) (hc : w.clock ≤ w'.clock) :
    Frame u w w' where
  sess := hs
  lock := hl
  row k _ := by rw [hdb]
  log := ⟨[], by rw [hdb, List.append_nil]⟩
  clock := hc

end Frame

/-! ### The pieces of an operation -/

namespace Session

@[simp] theorem put_dirty (s : Session S) (k : S.Key) (e : Entry S k) :
    (s.put k e).dirty = k :: s.dirty := rfl

@[simp] theorem put_new (s : Session S) (k : S.Key) (e : Entry S k) :
    (s.put k e).new = s.new := rfl

@[simp] theorem put_cache_self (s : Session S) (k : S.Key) (e : Entry S k) :
    (s.put k e).cache k = some e := Function.update_self ..

theorem put_cache_ne (s : Session S) {j k : S.Key} (h : j ≠ k) (e : Entry S k) :
    (s.put k e).cache j = s.cache j := Function.update_of_ne h ..

end Session

namespace World

@[simp] theorem setSess_db (w : World S) (t : ℕ) (s : Session S) :
    (w.setSess t s).db = w.db := rfl

@[simp] theorem setSess_lock (w : World S) (t : ℕ) (s : Session S) :
    (w.setSess t s).lock = w.lock := rfl

@[simp] theorem setSess_sess (w : World S) (t : ℕ) (s : Session S) :
    (w.setSess t s).sess t = s := Function.update_self ..

@[simp] theorem release_db (w : World S) (t : ℕ) : (w.release t).db = w.db := rfl

@[simp] theorem release_sess (w : World S) (t : ℕ) :
    (w.release t).sess t = Session.empty S := Function.update_self ..

@[simp] theorem tick_db (w : World S) (n : ℕ) : (w.tick n).db = w.db := rfl

@[simp] theorem tick_lock (w : World S) (n : ℕ) : (w.tick n).lock = w.lock := rfl

@[simp] theorem tick_sess (w : World S) (n : ℕ) : (w.tick n).sess = w.sess := rfl

theorem clock_le_tick (w : World S) (n : ℕ) : w.clock ≤ (w.tick n).clock := by
  simp [tick]

@[simp] theorem tick_view (w : World S) (n t : ℕ) : (w.tick n).view t = w.view t := rfl

@[simp] theorem tick_free (w : World S) (n t : ℕ) : (w.tick n).free t = w.free t := rfl

@[simp] theorem cacheRow_db (w : World S) (t : ℕ) (k : S.Key) : (w.cacheRow t k).db = w.db := by
  unfold cacheRow; split <;> rfl

@[simp] theorem cacheRow_lock (w : World S) (t : ℕ) (k : S.Key) :
    (w.cacheRow t k).lock = w.lock := by
  unfold cacheRow; split <;> rfl

@[simp] theorem cacheRow_clock (w : World S) (t : ℕ) (k : S.Key) :
    (w.cacheRow t k).clock = w.clock := by
  unfold cacheRow; split <;> rfl

theorem cacheRow_sess_ne {w : World S} {t u : ℕ} (h : u ≠ t) (k : S.Key) :
    (w.cacheRow t k).sess u = w.sess u := by
  unfold cacheRow
  split
  · exact Function.update_of_ne h _ _
  · rfl

@[simp] theorem lockRow_db (w : World S) (t : ℕ) (k : S.Key) : (w.lockRow t k).db = w.db := by
  simp [lockRow]

@[simp] theorem lockRow_clock (w : World S) (t : ℕ) (k : S.Key) :
    (w.lockRow t k).clock = w.clock := by
  simp [lockRow]

@[simp] theorem lockRow_lock (w : World S) (t : ℕ) (k : S.Key) :
    (w.lockRow t k).lock = Function.update w.lock k (some t) := by
  simp [lockRow]

theorem lockRow_sess_ne {w : World S} {t u : ℕ} (h : u ≠ t) (k : S.Key) :
    (w.lockRow t k).sess u = w.sess u := by
  rw [lockRow, cacheRow_sess_ne h]

theorem free_iff {w : World S} {t : ℕ} {k : S.Key} :
    w.free t k = true ↔ w.lock k = none ∨ w.lock k = some t := by
  simp [free]

end World

/-! ### Every operation respects the frame of the others -/

theorem frame_tick (u : ℕ) (w : World S) (n : ℕ) : Frame u w (w.tick n) :=
  .of_db rfl rfl (fun _ => Iff.rfl) (w.clock_le_tick n)

theorem frame_setSess {u t : ℕ} (h : u ≠ t) (w : World S) (s : Session S) :
    Frame u w (w.setSess t s) :=
  .of_db rfl (Function.update_of_ne h _ _) (fun _ => Iff.rfl) le_rfl

theorem frame_release {u t : ℕ} (h : u ≠ t) (w : World S) : Frame u w (w.release t) := by
  refine .of_db rfl (Function.update_of_ne h _ _) (fun k => ?_) le_rfl
  unfold World.release
  dsimp only
  split <;> simp_all [Ne.symm h]

theorem frame_cacheRow {u t : ℕ} (h : u ≠ t) (w : World S) (k : S.Key) :
    Frame u w (w.cacheRow t k) :=
  .of_db (by simp) (World.cacheRow_sess_ne h k) (by simp) (by simp)

theorem frame_lockRow {u t : ℕ} (h : u ≠ t) {w : World S} {k : S.Key}
    (hf : w.free t k = true) : Frame u w (w.lockRow t k) := by
  refine .of_db (by simp) (World.lockRow_sess_ne h k) (fun j => ?_) (by simp)
  rw [World.lockRow_lock]
  rcases World.free_iff.mp hf with hk | hk <;> by_cases hj : j = k
  · subst hj; simp [hk, Ne.symm h]
  · simp [Function.update_of_ne hj]
  · subst hj; simp [hk]
  · simp [Function.update_of_ne hj]

theorem free_lockRow {w : World S} {t : ℕ} {j k : S.Key} (h : w.free t j = true) :
    (w.lockRow t k).free t j = true := by
  rw [World.free_iff] at *
  rw [World.lockRow_lock]
  by_cases hj : j = k
  · subst hj; simp
  · simpa [Function.update_of_ne hj] using h

theorem frame_lockRows {u t : ℕ} (h : u ≠ t) {ks : List S.Key} {w : World S}
    (hf : ks.all (w.free t) = true) :
    Frame u w (ks.foldl (fun w k => w.lockRow t k) w) := by
  induction ks generalizing w with
  | nil => exact .refl u w
  | cons k ks ih =>
      simp only [List.all_cons, Bool.and_eq_true] at hf
      refine (frame_lockRow h hf.1).trans (ih ?_)
      simp only [List.all_eq_true] at hf ⊢
      exact fun j hj => free_lockRow (hf.2 j hj)

theorem lockRows_db {t : ℕ} (ks : List S.Key) (w : World S) :
    (ks.foldl (fun w k => w.lockRow t k) w).db = w.db := by
  induction ks generalizing w with
  | nil => rfl
  | cons k ks ih => rw [List.foldl_cons, ih, World.lockRow_db]

theorem cacheRows_db {t : ℕ} (ks : List S.Key) (w : World S) :
    (ks.foldl (fun w k => w.cacheRow t k) w).db = w.db := by
  induction ks generalizing w with
  | nil => rfl
  | cons k ks ih => rw [List.foldl_cons, ih, World.cacheRow_db]

theorem cacheRows_lock {t : ℕ} (ks : List S.Key) (w : World S) :
    (ks.foldl (fun w k => w.cacheRow t k) w).lock = w.lock := by
  induction ks generalizing w with
  | nil => rfl
  | cons k ks ih => rw [List.foldl_cons, ih, World.cacheRow_lock]

theorem frame_cacheRows {u t : ℕ} (h : u ≠ t) (ks : List S.Key) (w : World S) :
    Frame u w (ks.foldl (fun w k => w.cacheRow t k) w) := by
  induction ks generalizing w with
  | nil => exact .refl u w
  | cons k ks ih => exact (frame_cacheRow h w k).trans (ih _)

theorem act_db {t : ℕ} {o : Op S A} {c : Choice} {w w' : World S}
    {r : Except (Exc A) (Res S A o)} (ho : o ≠ .commit)
    (h : act t o c w = some (r, w')) : w'.db = w.db := by
  cases o with
  | load k =>
      simp only [act, execLoad, failed] at h
      split at h
      · cases h; rfl
      · split at h
        · cases h; rfl
        · split at h <;> cases h <;> simp
  | select q =>
      simp only [act, execSelect, failed] at h
      split at h
      · cases h; rfl
      · split at h <;> cases h <;> simp
  | selectAll q =>
      simp only [act, execSelectAll, failed] at h
      split at h
      · cases h; rfl
      · cases h
        exact cacheRows_db _ w
  | lockRows ks =>
      simp only [act, execLockRows, failed] at h
      split at h
      · cases h; rfl
      · split at h
        · cases h
          exact lockRows_db ks w
        · cases h
  | lockWhere q =>
      simp only [act, execLockWhere, failed] at h
      split at h
      · cases h; rfl
      · split at h
        · cases h; rfl
        · split at h <;> cases h
          simp
  | assign k f =>
      simp only [act, execAssign] at h
      split at h <;> cases h <;> rfl
  | query α q =>
      simp only [act, failed] at h
      split at h <;> cases h <;> rfl
  -- the only step that writes the rows
  | commit => exact absurd rfl ho
  | check a =>
      simp only [act] at h
      split at h <;> cases h <;> rfl
  | addRow | add | rollback | now | uuid4 | ask | mark =>
      simp only [act] at h
      cases h
      rfl

/-- A commit writes rows that nobody else has locked. -/
theorem frame_commit {u t : ℕ} (h : u ≠ t) {w : World S}
    (hf : (w.sess t).dirty.all (w.free t) = true) :
    Frame u w (({ w with db := w.view t }).release t) := by
  refine Frame.trans (v := { w with db := w.view t }) ?_ (frame_release h _)
  refine ⟨rfl, fun _ => Iff.rfl, fun k hk => ?_, ⟨_, rfl⟩, le_rfl⟩
  -- the row is locked by the other session, so nothing here is dirty under its key
  have hd : k ∉ (w.sess t).dirty := by
    intro hmem
    have := World.free_iff.mp (List.all_eq_true.mp hf k hmem)
    rw [hk] at this
    simp [h] at this
  simp [World.view, Session.apply, hd]

theorem act_frame {t u : ℕ} {o : Op S A} {c : Choice} {w w' : World S}
    {r : Except (Exc A) (Res S A o)} (htu : u ≠ t)
    (h : act t o c w = some (r, w')) : Frame u w w' := by
  -- what the step leaves to others: nothing touched, or its own transaction ended
  have hsame := Frame.refl u w
  have hfail := frame_release htu w
  cases o with
  | load k =>
      simp only [act, execLoad, failed] at h
      split at h
      · cases h; exact hsame
      · split at h
        · cases h; exact hfail
        · split at h <;> cases h
          · exact frame_cacheRow htu w k
          · exact hsame
  | select q =>
      simp only [act, execSelect, failed] at h
      split at h
      · cases h; exact hfail
      · split at h <;> cases h
        · exact hsame
        · exact frame_cacheRow htu w _
  | selectAll q =>
      simp only [act, execSelectAll, failed] at h
      split at h
      · cases h; exact hfail
      · cases h; exact frame_cacheRows htu _ w
  | lockRows ks =>
      simp only [act, execLockRows, failed] at h
      split at h
      · cases h; exact hfail
      · split at h
        · next hf => cases h; exact frame_lockRows htu hf
        · cases h
  | lockWhere q =>
      simp only [act, execLockWhere, failed] at h
      split at h
      · cases h; exact hfail
      · split at h
        · cases h; exact hsame
        · split at h
          · next hf => cases h; exact frame_lockRow htu hf
          · cases h
  | assign k f =>
      simp only [act, execAssign] at h
      split at h <;> cases h
      · exact hsame
      · exact frame_setSess htu w _
  | query α q =>
      simp only [act, failed] at h
      split at h <;> cases h
      · exact hfail
      · exact hsame
  | commit =>
      simp only [act, execCommit, failed] at h
      split at h
      · cases h; exact hfail
      · split at h
        · next hf =>
            split at h <;> cases h
            · exact frame_commit htu hf
            · exact hfail
        · cases h
  | check a =>
      simp only [act] at h
      split at h <;> cases h <;> exact hsame
  | addRow | add =>
      simp only [act] at h
      cases h
      exact frame_setSess htu w _
  | rollback =>
      simp only [act] at h
      cases h
      exact hfail
  | now | uuid4 | ask | mark =>
      simp only [act] at h
      cases h
      exact hsame

theorem exec_iff {t : ℕ} {o : Op S A} {c : Choice} {w w' : World S}
    {r : Except (Exc A) (Res S A o)} :
    exec t o c w = some (r, w') ↔ ∃ w₁, act t o c w = some (r, w₁) ∧ w' = w₁.tick c.tick := by
  unfold exec
  rw [Option.map_eq_some_iff]
  constructor
  · rintro ⟨⟨r', w₁⟩, h, heq⟩
    cases heq
    exact ⟨w₁, h, rfl⟩
  · rintro ⟨w₁, h, rfl⟩
    exact ⟨(r, w₁), h, rfl⟩

theorem exec_db {t : ℕ} {o : Op S A} {c : Choice} {w w' : World S}
    {r : Except (Exc A) (Res S A o)} (ho : o ≠ .commit)
    (h : exec t o c w = some (r, w')) : w'.db = w.db := by
  obtain ⟨w₁, hact, rfl⟩ := exec_iff.mp h
  rw [World.tick_db, act_db ho hact]

theorem exec_frame {t u : ℕ} {o : Op S A} {c : Choice} {w w' : World S}
    {r : Except (Exc A) (Res S A o)} (htu : u ≠ t)
    (h : exec t o c w = some (r, w')) : Frame u w w' := by
  obtain ⟨w₁, hact, rfl⟩ := exec_iff.mp h
  exact (act_frame htu hact).trans (frame_tick u w₁ c.tick)

theorem exec_clock {t : ℕ} {o : Op S A} {c : Choice} {w w' : World S}
    {r : Except (Exc A) (Res S A o)} (h : exec t o c w = some (r, w')) :
    w.clock ≤ w'.clock :=
  (exec_frame (u := t + 1) (by omega) h).clock

end SitBank.Orm
