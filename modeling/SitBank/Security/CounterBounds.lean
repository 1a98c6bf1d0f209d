import Mathlib.Data.List.Count
import SitBank.Security.DurableCounters

/-!
Counters admit no more than their limit and forget nothing, as long as no session
deletes a row on the word of an outdated copy.

A call that counts has the row lock, or has inserted the row and not committed
it: until its commit nobody else changes the row. The check of the backoff reads the
row without a lock, and deletes it if its window has expired; by the time of the
deletion a recorded failure may have extended the window. A consuming call reads the
row again after its own commit, and once more after another session was first to
insert it; by then it may be gone.
-/

namespace SitBank.Security.RateLimits

open SitBank.Interaction

/-- The window of a row that is deleted has not been extended since the row was read; a
row that another session has inserted first is there when a consuming call looks it up
again, and its window has not expired; and a row that was consumed from is still there
after the commit. -/
def undisturbed (t : ℕ) (o : CounterOp) (w : CounterWorld) : Prop :=
  match o with
  | .snapshot reload => reload = true → (w.visible t).isSome
  | .lock id now reload =>
      reload = true → ∃ r, w.visible t = some r ∧ r.id = id ∧ now < r.windowExpiresAt
  | .delete seen => ∀ r, w.row = some r → r.id = seen.id →
      seen.windowExpiresAt ≤ w.clock → r.windowExpiresAt ≤ w.clock
  | .refresh id => ∃ r, w.row = some r ∧ r.id = id
  | _ => True

/-! ### The invariant -/

/-- The number of committed calls of a window. -/
def calls (counted : List Counted) (window : ℕ) : ℕ := counted.countP fun e => e.window = window

structure CounterOk (w : CounterWorld) : Prop where
  counted : ∀ r, w.row = some r → r.failureCount = calls w.counted r.id
  row_lt : ∀ r, w.row = some r → r.id < w.nextId
  counted_lt : ∀ e ∈ w.counted, e.window < w.nextId
  held : ∀ p, w.holder = some p → w.row.isSome
  expired : ∀ u, w.holder = some (u, true) → ∀ r, w.row = some r → r.windowExpiresAt ≤ w.clock
  fresh : ∀ u c, w.inserter = some (u, c) → c.failureCount = 0 ∧ c.id < w.nextId ∧
    calls w.counted c.id = 0 ∧ ∀ r, w.row = some r → r.id ≠ c.id
  alone : ∀ u c, w.inserter = some (u, c) → w.row = none ∨ w.holder = some (u, true)
  limits : ∀ window limit, w.counted.count ⟨window, some limit⟩ ≤ limit
  early : w.early = 0
  raised : ∀ e ∈ w.raised, e = .limitExceeded

/-- What the other sessions leave alone. -/
structure Kept (t : ℕ) (w w' : CounterWorld) : Prop where
  clock : w.clock ≤ w'.clock
  holder : ∀ d, w.holder = some (t, d) → w'.holder = some (t, d) ∧ w'.row = w.row
  inserter : ∀ c, w.inserter = some (t, c) → w'.inserter = some (t, c)

def counterRules : Rules CounterOp CounterWorld where
  rely := Kept
  guar t w w' := ∀ u, u ≠ t → Kept u w w'
  inv := CounterOk
  cond := undisturbed

theorem Kept.refl (t : ℕ) (w : CounterWorld) : Kept t w w :=
  ⟨Nat.le_refl _, fun _ h => ⟨h, rfl⟩, fun _ h => h⟩

theorem counterRules_sound : counterRules.Sound where
  refl := Kept.refl
  trans t w₁ w₂ w₃ h h' := by
    refine ⟨Nat.le_trans h.clock h'.clock, fun d hd => ?_, fun c hc => ?_⟩
    · obtain ⟨hholder, hrow⟩ := h.holder d hd
      obtain ⟨hholder', hrow'⟩ := h'.holder d hholder
      exact ⟨hholder', hrow'.trans hrow⟩
    · exact h'.inserter c (h.inserter c hc)
  others t u _ _ hne _ h := h t hne.symm

/-- A step of session `t`. -/
def Good (t : ℕ) (w w' : CounterWorld) : Prop := CounterOk w' ∧ ∀ u, u ≠ t → Kept u w w'

section Statements

variable {w w' : CounterWorld} {t : ℕ}

theorem locked_eq_false {u : ℕ} {d : Bool} (h : w.locked t = false)
    (hu : w.holder = some (u, d)) : u = t := by
  unfold CounterWorld.locked waits at h
  rw [hu] at h
  simpa using h

theorem locked_of_ne {u : ℕ} {d : Bool} (hne : u ≠ t) (hu : w.holder = some (u, d)) :
    w.locked t = true := by
  unfold CounterWorld.locked waits
  rw [hu]
  simpa using hne

theorem visible_row {r : Counter} (h : w.visible t = some r) : w.row = some r := by
  unfold CounterWorld.visible at h
  split at h
  · cases h
  · exact h

theorem CounterOk.tick (h : CounterOk w) (n : ℕ) :
    CounterOk { w with clock := w.clock + n } :=
  ⟨h.counted, h.row_lt, h.counted_lt, h.held,
    fun u hu r hr => Nat.le_add_right_of_le (h.expired u hu r hr), h.fresh, h.alone, h.limits,
    h.early, h.raised⟩

theorem Kept.tick (h : Kept t w w') (n : ℕ) : Kept t w { w' with clock := w'.clock + n } :=
  ⟨Nat.le_add_right_of_le h.clock, h.holder, h.inserter⟩

theorem Good.tick (h : Good t w w') (n : ℕ) : Good t w { w' with clock := w'.clock + n } :=
  ⟨h.1.tick n, fun u hu => (h.2 u hu).tick n⟩

theorem Good.refl (h : CounterOk w) : Good t w w := ⟨h, fun u _ => Kept.refl u w⟩

/-- The lock of another session is not released. -/
theorem holder_endTransaction {u : ℕ} {d : Bool} (hne : u ≠ t) (hu : w.holder = some (u, d)) :
    (w.endTransaction t).holder = some (u, d) := by
  simp only [CounterWorld.endTransaction]
  rw [if_pos (locked_of_ne hne hu), hu]

theorem inserter_endTransaction {u : ℕ} {c : Counter} (hne : u ≠ t)
    (hu : w.inserter = some (u, c)) : (w.endTransaction t).inserter = some (u, c) := by
  simp only [CounterWorld.endTransaction, hu]
  rw [if_pos (by simpa [waits] using hne)]

theorem of_holder_endTransaction {p : ℕ × Bool} (h : (w.endTransaction t).holder = some p) :
    w.holder = some p ∧ p.1 ≠ t := by
  simp only [CounterWorld.endTransaction] at h
  split at h
  · next hlocked =>
      refine ⟨h, fun hp => ?_⟩
      unfold CounterWorld.locked waits at hlocked
      rw [h] at hlocked
      simp [hp] at hlocked
  · cases h

theorem of_inserter_endTransaction {p : ℕ × Counter} (h : (w.endTransaction t).inserter = some p) :
    w.inserter = some p ∧ p.1 ≠ t := by
  simp only [CounterWorld.endTransaction] at h
  split at h
  · next hwaits =>
      refine ⟨h, fun hp => ?_⟩
      rw [h] at hwaits
      simp [waits, hp] at hwaits
  · cases h

theorem Good.endTransaction (h : CounterOk w) : Good t w (w.endTransaction t) := by
  refine ⟨⟨h.counted, h.row_lt, h.counted_lt, fun p hp => ?_, fun u hu => ?_, fun u c hc => ?_,
    fun u c hc => ?_, h.limits, h.early, h.raised⟩, fun u hne => ⟨Nat.le_refl _, fun d hd => ?_,
    fun c hc => ?_⟩⟩
  · exact h.held p (of_holder_endTransaction hp).1
  · exact h.expired u (of_holder_endTransaction hu).1
  · exact h.fresh u c (of_inserter_endTransaction hc).1
  · obtain ⟨hc, hne⟩ := of_inserter_endTransaction hc
    exact (h.alone u c hc).imp id (holder_endTransaction hne)
  · exact ⟨holder_endTransaction hne hd, rfl⟩
  · exact inserter_endTransaction hne hc

/-- The session has the lock, and the row is as it has read it. -/
def Locked (t : ℕ) (c : Counter) (w : CounterWorld) : Prop :=
  w.holder = some (t, false) ∧ w.row = some c

/-- The lock is taken: no other session has it, or has deleted the row. -/
theorem Good.lockRow (h : CounterOk w) (hfree : w.locked t = false) {r : Counter}
    (hr : w.visible t = some r) : Good t w { w with holder := some (t, false) } := by
  have hrow := visible_row hr
  refine ⟨⟨h.counted, h.row_lt, h.counted_lt, fun p _ => ?_, nofun, h.fresh, fun u c hc => ?_,
    h.limits, h.early, h.raised⟩, fun u hne => ⟨Nat.le_refl _, fun d hd => ?_, fun c hc => hc⟩⟩
  · show w.row.isSome
    rw [hrow]
    rfl
  · rcases h.alone u c hc with hnone | hholder
    · rw [hnone] at hrow
      cases hrow
    · -- an insertion goes with the deletion of the visible row
      obtain rfl := locked_eq_false hfree hholder
      unfold CounterWorld.visible at hr
      rw [if_pos hholder] at hr
      cases hr
  · exact absurd (locked_eq_false hfree hd) hne

theorem Good.lock (h : CounterOk w) (hfree : w.locked t = false) (id : ℕ) :
    Good t w (w.lock t id).2 := by
  unfold CounterWorld.lock
  split
  · next r hr =>
      split
      · exact .lockRow h hfree hr
      · exact .refl h
  · exact .refl h

theorem locked_lock {id : ℕ} {c : Counter} (hc : (w.lock t id).1 = some c) :
    Locked t c (w.lock t id).2 := by
  unfold CounterWorld.lock at hc ⊢
  split at hc
  · next r hr =>
      split at hc
      · next hid =>
          cases hc
          have hrow : w.row = some c := visible_row hr
          rw [if_pos hid]
          exact ⟨rfl, hrow⟩
      · cases hc
  · cases hc

theorem Good.delete (h : CounterOk w) (hfree : w.locked t = false) {seen : Counter}
    (hseen : ∀ r, w.row = some r → r.id = seen.id → r.windowExpiresAt ≤ w.clock) :
    Good t w (w.delete t seen) := by
  unfold CounterWorld.delete
  split
  · next r hrow =>
      split
      · next hid =>
          refine ⟨⟨h.counted, h.row_lt, h.counted_lt, fun p _ => ?_, fun u _ r' hr' => ?_, h.fresh,
            fun u c hc => ?_, h.limits, h.early, h.raised⟩, fun u hne => ⟨Nat.le_refl _,
            fun d hd => ?_, fun c hc => hc⟩⟩
          · show w.row.isSome
            rw [hrow]
            rfl
          · cases hrow.symm.trans hr'
            exact hseen r hrow hid
          · rcases h.alone u c hc with hnone | hholder
            · exact .inl hnone
            · obtain rfl := locked_eq_false hfree hholder
              exact .inr rfl
          · exact absurd (locked_eq_false hfree hd) hne
      · exact .refl h
  · exact .refl h

theorem calls_eq_zero {counted : List Counted} {window : ℕ}
    (h : ∀ e ∈ counted, e.window < window) : calls counted window = 0 := by
  refine List.countP_eq_zero.mpr fun e he => ?_
  have := h e he
  simp only [decide_eq_true_eq]
  omega

theorem visible_none (h : w.visible t = none) : w.row = none ∨ w.holder = some (t, true) := by
  unfold CounterWorld.visible at h
  split at h
  · next hholder => exact .inr hholder
  · exact .inl h

theorem Good.insert (h : CounterOk w) (hfree : w.pendingKey t = false) (windowExpiresAt : ℕ) :
    Good t w (w.insert t windowExpiresAt).2 := by
  unfold CounterWorld.insert
  split
  · exact .refl h
  · next hnone =>
      have hnone : w.visible t = none := by simpa using hnone
      refine ⟨⟨h.counted, fun r hr => Nat.lt_succ_of_lt (h.row_lt r hr),
        fun e he => Nat.lt_succ_of_lt (h.counted_lt e he), h.held, h.expired, ?_, ?_,
        h.limits, h.early, h.raised⟩, fun u hne => ⟨Nat.le_refl _, fun d hd => ⟨hd, rfl⟩,
        fun c hc => ?_⟩⟩
      · rintro u c ⟨rfl⟩
        refine ⟨rfl, Nat.lt_succ_self _, calls_eq_zero h.counted_lt, fun r hr => ?_⟩
        exact Nat.ne_of_lt (h.row_lt r hr)
      · rintro u c ⟨rfl⟩
        exact visible_none hnone
      · unfold CounterWorld.pendingKey waits at hfree
        rw [hc] at hfree
        simp [hne] at hfree

theorem insert_ok {windowExpiresAt : ℕ} {c : Counter}
    (h : (w.insert t windowExpiresAt).1 = .ok c) :
    (w.insert t windowExpiresAt).2.inserter = some (t, c) := by
  unfold CounterWorld.insert at h ⊢
  split at h
  · cases h
  · next hnone =>
      cases h
      rw [if_neg hnone]

theorem insert_error {windowExpiresAt : ℕ} {e : CounterError}
    (h : (w.insert t windowExpiresAt).1 = .error e) : e = .integrity := by
  unfold CounterWorld.insert at h
  split at h
  · cases h
    rfl
  · cases h

/-! ### Commits -/

theorem calls_append (counted : List Counted) (e : Counted) (window : ℕ) :
    calls (counted ++ [e]) window = calls counted window + if e.window = window then 1 else 0 := by
  unfold calls
  rw [List.countP_append, List.countP_singleton]
  simp only [decide_eq_true_eq]

theorem count_le_calls (counted : List Counted) (window : ℕ) (limit : Option ℕ) :
    counted.count ⟨window, limit⟩ ≤ calls counted window := by
  refine List.countP_mono_left fun e _ he => ?_
  have he : e = ⟨window, limit⟩ := by simpa using he
  rw [he]
  exact decide_eq_true rfl

/-- One more call, within its limit. -/
theorem limits_append (h : CounterOk w) {e : Counted}
    (hlimit : ∀ limit, e.limit = some limit → calls w.counted e.window < limit)
    (window limit : ℕ) : (w.counted ++ [e]).count ⟨window, some limit⟩ ≤ limit := by
  rw [List.count_append]
  by_cases he : e = ⟨window, some limit⟩
  · subst he
    rw [List.count_singleton_self]
    have := count_le_calls w.counted window (some limit)
    have := hlimit limit rfl
    dsimp only at this
    omega
  · rw [List.count_singleton, if_neg (by simpa using he)]
    exact h.limits window limit

/-- The row with one more call counted, committed. -/
theorem CounterOk.commitRow (h : CounterOk w) {r : Counter} {limit : Option ℕ}
    (hcount : r.failureCount = calls w.counted r.id + 1) (hlt : r.id < w.nextId)
    (hlimit : ∀ n, limit = some n → calls w.counted r.id < n) :
    CounterOk { w with
      row := some r, holder := none, inserter := none
      counted := w.counted ++ [⟨r.id, limit⟩] } := by
  refine ⟨?_, ?_, ?_, nofun, nofun, nofun, nofun, limits_append h hlimit, h.early, h.raised⟩
  · rintro r' ⟨rfl⟩
    rw [calls_append, if_pos rfl, hcount]
  · rintro r' ⟨rfl⟩
    exact hlt
  · intro e he
    rcases List.mem_append.mp he with he | he
    · exact h.counted_lt e he
    · rw [List.mem_singleton.mp he]
      exact hlt

theorem Good.storeUpdated (h : CounterOk w) {seen r : Counter} (hlocked : Locked t seen w)
    (hid : r.id = seen.id) (hcount : r.failureCount = seen.failureCount + 1) {limit : Option ℕ}
    (hlimit : ∀ n, limit = some n → seen.failureCount < n) :
    Good t w (w.storeUpdated t r limit) := by
  obtain ⟨hholder, hrow⟩ := hlocked
  have hseen := h.counted seen hrow
  -- an insertion would go with the deletion of the row
  have hnone : w.inserter = none := by
    cases hins : w.inserter with
    | none => rfl
    | some p =>
        rcases h.alone p.1 p.2 hins with hnone | hother
        · rw [hnone] at hrow
          cases hrow
        · rw [hholder] at hother
          cases hother
  have hend : w.storeUpdated t r limit = { w with
      row := some r, holder := none, inserter := none
      counted := w.counted ++ [⟨r.id, limit⟩] } := by
    unfold CounterWorld.storeUpdated CounterWorld.endTransaction CounterWorld.locked
    simp [hholder, hnone, waits]
  rw [hend]
  refine ⟨h.commitRow ?_ ?_ fun n hn => ?_, fun u hne => ⟨Nat.le_refl _, fun d hd => ?_,
    fun c hc => ?_⟩⟩
  · rw [hcount, hid, hseen]
  · rw [hid]
    exact h.row_lt seen hrow
  · rw [hid, ← hseen]
    exact hlimit n hn
  · rw [hholder] at hd
    cases hd
    exact absurd rfl hne
  · rw [hnone] at hc
    cases hc

/-- Only a row whose window has expired is removed. -/
theorem dropDeleted_cases (h : CounterOk w) (t : ℕ) : w.dropDeleted t = w ∨
    w.holder = some (t, true) ∧ w.dropDeleted t = { w with row := none } := by
  unfold CounterWorld.dropDeleted
  split
  · next hholder =>
      refine .inr ⟨hholder, ?_⟩
      cases hrow : w.row with
      | none => rfl
      | some r =>
          have := h.expired t hholder r hrow
          have hlate : ¬w.clock < r.windowExpiresAt := by omega
          simp [hlate]
  · exact .inl rfl

theorem Good.storeInserted (h : CounterOk w) {c r : Counter} (hins : w.inserter = some (t, c))
    (hid : r.id = c.id) (hcount : r.failureCount = c.failureCount + 1) {limit : Option ℕ}
    (hlimit : ∀ n, limit = some n → c.failureCount < n) :
    Good t w (w.storeInserted t r limit) := by
  obtain ⟨hzero, hlt, hcalls, -⟩ := h.fresh t c hins
  -- the lock is this session's, if there is one
  have hholder : ∀ p, w.holder = some p → p = (t, true) := by
    intro p hp
    rcases h.alone t c hins with hnone | hown
    · have hrow := h.held p hp
      rw [hnone] at hrow
      cases hrow
    · exact Option.some.inj (hp.symm.trans hown)
  have hend : w.storeInserted t r limit = { w with
      row := some r, holder := none, inserter := none
      counted := w.counted ++ [⟨r.id, limit⟩] } := by
    have hfree : waits (w.holder.map Prod.fst) t = false := by
      cases hh : w.holder with
      | none => rfl
      | some p =>
          rw [hholder p hh]
          simp [waits]
    have hown : waits (w.inserter.map Prod.fst) t = false := by
      rw [hins]
      simp [waits]
    unfold CounterWorld.storeInserted
    rcases dropDeleted_cases h t with he | ⟨-, he⟩ <;>
      simp only [he, CounterWorld.endTransaction, CounterWorld.locked, hfree, hown,
        Bool.false_eq_true, if_false]
  rw [hend]
  refine ⟨h.commitRow ?_ ?_ fun n hn => ?_, fun u hne => ⟨Nat.le_refl _, fun d hd => ?_,
    fun c hc => ?_⟩⟩
  · rw [hcount, hid, hzero, hcalls]
  · rw [hid]
    exact hlt
  · rw [hid, hcalls, ← hzero]
    exact hlimit n hn
  · exact absurd (congrArg Prod.fst (hholder _ hd)) hne
  · rw [hins] at hc
    cases hc
    exact absurd rfl hne

theorem Good.commit (h : CounterOk w) : Good t w ((w.dropDeleted t).endTransaction t) := by
  rcases dropDeleted_cases h t with he | ⟨hholder, he⟩
  · rw [he]
    exact .endTransaction h
  · rw [he]
    refine ⟨⟨nofun, nofun, h.counted_lt, fun p hp => ?_, nofun, fun u c hc => ?_,
      fun _ _ _ => .inl rfl, h.limits, h.early, h.raised⟩, fun u hne => ⟨Nat.le_refl _,
      fun d hd => ?_, fun c hc => inserter_endTransaction hne hc⟩⟩
    · obtain ⟨hp, hne⟩ := of_holder_endTransaction hp
      cases hholder.symm.trans hp
      exact absurd rfl hne
    · obtain ⟨hzero, hlt, hcalls, -⟩ := h.fresh u c (of_inserter_endTransaction hc).1
      exact ⟨hzero, hlt, hcalls, nofun⟩
    · cases hholder.symm.trans hd
      exact absurd rfl hne

end Statements

/-! ### The programs -/

section Programs

variable {t : ℕ} {w w' : CounterWorld}

abbrev CounterSat (t : ℕ) {α : Type} (p : CounterReq α)
    (Q : Except CounterError α → CounterWorld → Prop) (w : CounterWorld) : Prop :=
  Holds counterExec counterRules t p Q w

theorem counterExec_cases {o : CounterOp} {n : ℕ} {r : Except CounterError (CounterRes o)}
    (he : counterExec t o n w = some (r, w')) :
    ∃ w₁, counterAct t o w = some (r, w₁) ∧ w' = { w₁ with clock := w₁.clock + n } := by
  obtain ⟨⟨r₁, w₁⟩, hact, heq⟩ := Option.map_eq_some_iff.mp he
  cases heq
  exact ⟨w₁, hact, rfl⟩

/-- The rule for one statement; time may pass after it. -/
theorem sat_op {o : CounterOp} {Q : Except CounterError (CounterRes o) → CounterWorld → Prop}
    (h : ∀ w₁, Kept t w w₁ → CounterOk w₁ → undisturbed t o w₁ → ∀ r w₂,
      counterAct t o w₁ = some (r, w₂) →
        Good t w₁ w₂ ∧ ∀ n, Q r { w₂ with clock := w₂.clock + n }) :
    CounterSat t (Prog.perform o) Q w := by
  refine Holds.perform fun w₁ hr hi hc n r w₂ he => ?_
  obtain ⟨w₃, hact, rfl⟩ := counterExec_cases he
  obtain ⟨hgood, hQ⟩ := h w₁ hr hi hc r w₃ hact
  exact ⟨(hgood.tick n).2, (hgood.tick n).1, hQ n⟩

theorem Locked.kept {c : Counter} (h : Locked t c w) (hk : Kept t w w') : Locked t c w' := by
  obtain ⟨hholder, hrow⟩ := hk.holder false h.1
  exact ⟨hholder, hrow.trans h.2⟩

/-- The row is locked and as it was read, or it was inserted. -/
def Owned (t : ℕ) (c : Counter) (w : CounterWorld) : Prop :=
  Locked t c w ∨ w.inserter = some (t, c)

theorem Owned.kept {c : Counter} (h : Owned t c w) (hk : Kept t w w') : Owned t c w' :=
  h.imp (Locked.kept · hk) (hk.inserter c)

theorem sat_utcnow : CounterSat t utcnow (fun r w' => ∃ n, r = .ok n ∧ n ≤ w'.clock) w := by
  refine sat_op fun w₁ _ hi _ r w₂ he => ?_
  cases he
  exact ⟨.refl hi, fun n => ⟨w₁.clock, rfl, Nat.le_add_right ..⟩⟩

theorem sat_read :
    CounterSat t read (fun r w' => (∃ found, r = .ok found) ∧ w.clock ≤ w'.clock) w := by
  refine sat_op fun w₁ hk hi _ r w₂ he => ?_
  cases he
  exact ⟨.refl hi, fun n => ⟨⟨_, rfl⟩, Nat.le_add_right_of_le hk.clock⟩⟩

theorem sat_delete {seen : Counter} (hexpired : seen.windowExpiresAt ≤ w.clock) :
    CounterSat t (delete seen) (fun r _ => r = .ok ()) w := by
  refine sat_op fun w₁ hk hi hc r w₂ he => ?_
  simp only [counterAct] at he
  split at he
  · cases he
  · next hfree =>
      cases he
      refine ⟨.delete hi (eq_false_of_ne_true hfree) fun r hr hid => ?_, fun _ => rfl⟩
      exact hc r hr hid (Nat.le_trans hexpired hk.clock)

theorem sat_dropExpired {now : ℕ} {c : Counter} {I : CounterWorld → Prop} (hnow : now ≤ w.clock)
    (hw : I w) :
    CounterSat t (dropExpired now c) (fun r w' => ∃ found, r = .ok found ∧
      (now < c.windowExpiresAt → found = some c) ∧ ∀ c', found = some c' → c' = c ∧ I w') w := by
  unfold dropExpired
  split
  · next hexpired =>
      refine Holds.bind (sat_delete (Nat.le_trans hexpired hnow)) (fun _ w₁ _ => ?_)
        fun e w₁ h => (nomatch h)
      refine ⟨none, rfl, fun hlt => ?_, nofun⟩
      omega
  · refine ⟨some c, rfl, fun _ => rfl, fun c' hc' => ?_⟩
    cases hc'
    exact ⟨rfl, hw⟩

theorem sat_loadCounter :
    CounterSat t loadCounter (fun _ _ => True) w := by
  refine Holds.bind sat_utcnow (fun now w₁ h₁ => ?_) fun _ _ _ => trivial
  obtain ⟨_, hok, hnow⟩ := h₁
  cases hok
  refine Holds.bind sat_read (fun found w₂ h₂ => ?_) fun _ _ _ => trivial
  cases found with
  | none => trivial
  | some counter =>
      refine Holds.mono (sat_dropExpired (I := fun _ => True) (Nat.le_trans hnow h₂.2) trivial) ?_
      exact fun _ _ _ => trivial

theorem sat_snapshot (reload : Bool) :
    CounterSat t (snapshot reload) (fun r w' => ∃ found, r = .ok found ∧
      (reload = true → found.isSome) ∧ w.clock ≤ w'.clock) w := by
  refine sat_op fun w₁ hk hi hc r w₂ he => ?_
  cases he
  refine ⟨.refl hi, fun n => ⟨_, rfl, fun hreload => ?_, ?_⟩⟩
  · simpa using hc hreload
  · exact Nat.le_add_right_of_le hk.clock

theorem sat_lock (id now : ℕ) (reload : Bool) :
    CounterSat t (lock id now reload) (fun r w' => ∃ found, r = .ok found ∧
      w.clock ≤ w'.clock ∧ (∀ c, found = some c → Locked t c w') ∧
      (reload = true → ∃ c, found = some c ∧ now < c.windowExpiresAt)) w := by
  refine sat_op fun w₁ hk hi hreload r w₂ he => ?_
  simp only [counterAct] at he
  split at he
  · cases he
  · next hfree =>
      cases he
      have hclock : (w₁.lock t id).2.clock = w₁.clock := by
        unfold CounterWorld.lock
        split
        · split <;> rfl
        · rfl
      refine ⟨.lock hi (eq_false_of_ne_true hfree) id, fun n => ⟨_, rfl, ?_, ?_, ?_⟩⟩
      · have := hk.clock
        dsimp only
        omega
      · intro c hfound
        exact locked_lock hfound
      · intro h
        obtain ⟨r, hr, hid, hlive⟩ := hreload h
        refine ⟨r, ?_, hlive⟩
        unfold CounterWorld.lock
        rw [hr]
        dsimp only
        rw [if_pos hid]

theorem sat_selectForUpdate (now : ℕ) (reload : Bool) :
    CounterSat t (selectForUpdate now reload) (fun r w' => ∃ found, r = .ok found ∧
      w.clock ≤ w'.clock ∧ (∀ c, found = some c → Locked t c w') ∧
      (reload = true → ∃ c, found = some c ∧ now < c.windowExpiresAt)) w := by
  refine Holds.bind (sat_snapshot reload) (fun found w₁ h₁ => ?_) fun e w₁ h₁ => ?_
  · obtain ⟨_, hok, hsome, hclock⟩ := h₁
    cases hok
    cases found with
    | none => exact ⟨none, rfl, hclock, nofun, fun h => (nomatch hsome h)⟩
    | some id =>
        refine Holds.mono (sat_lock id now reload) ?_
        rintro r w₂ ⟨found, hr, hle, hfound⟩
        exact ⟨found, hr, Nat.le_trans hclock hle, hfound⟩
  · obtain ⟨_, hok, -⟩ := h₁
    cases hok

theorem sat_loadCounterForUpdate (reload : Bool) :
    CounterSat t (loadCounterForUpdate reload) (fun r w' => ∃ found, r = .ok found ∧
      (∀ c, found = some c → Locked t c w') ∧ (reload = true → found.isSome)) w := by
  refine Holds.bind sat_utcnow (fun now w₁ h₁ => ?_) fun e w₁ h₁ => ?_
  · obtain ⟨_, hok, hnow⟩ := h₁
    cases hok
    refine Holds.bind (sat_selectForUpdate now reload) (fun found w₂ h₂ => ?_) fun e w₂ h₂ => ?_
    · obtain ⟨_, hok, hclock, hlocked, hreload⟩ := h₂
      cases hok
      cases found with
      | none =>
          refine ⟨none, rfl, nofun, fun h => ?_⟩
          obtain ⟨c, hc, -⟩ := hreload h
          cases hc
      | some c =>
          refine Holds.mono (sat_dropExpired (Nat.le_trans hnow hclock) (hlocked c rfl)) ?_
          rintro r w₃ ⟨found, hr, hlive, hkept⟩
          refine ⟨found, hr, fun c' hc' => ?_, fun h => ?_⟩
          · obtain ⟨rfl, hI⟩ := hkept c' hc'
            exact hI
          · obtain ⟨_, hc, hlt⟩ := hreload h
            cases hc
            rw [hlive hlt]
            rfl
    · obtain ⟨_, hok, -⟩ := h₂
      cases hok
  · obtain ⟨_, hok, -⟩ := h₁
    cases hok

/-- A call goes on with a row of its own; that there is none is an error which consuming
calls do not raise. -/
def Obtained (t : ℕ) (consumes : Bool) (r : Except CounterError Counter) (w : CounterWorld) :
    Prop :=
  (consumes = true → ∃ c, r = .ok c) ∧ ∀ c, r = .ok c → Owned t c w

theorem Obtained.ok {consumes : Bool} {c : Counter} (h : Owned t c w) :
    Obtained t consumes (.ok c) w := by
  refine ⟨fun _ => ⟨c, rfl⟩, ?_⟩
  rintro c' ⟨rfl⟩
  exact h

theorem sat_reloadCounter (consumes : Bool) :
    CounterSat t (reloadCounter consumes) (Obtained t consumes) w := by
  refine Holds.bind (sat_loadCounterForUpdate consumes) (fun found w₁ h₁ => ?_) fun e w₁ h₁ => ?_
  · obtain ⟨_, hok, hlocked, hsome⟩ := h₁
    cases hok
    cases found with
    | none => exact ⟨fun h => (nomatch hsome h), nofun⟩
    | some c => exact .ok (.inl (hlocked c rfl))
  · obtain ⟨_, hok, -⟩ := h₁
    cases hok

theorem sat_createCounter (consumes : Bool) (windowExpiresAt : ℕ) :
    CounterSat t (createCounter consumes windowExpiresAt) (Obtained t consumes) w := by
  intro w₁ _ hi _ n r w₂ he
  obtain ⟨w₃, hact, rfl⟩ := counterExec_cases he
  simp only [counterAct] at hact
  split at hact
  · cases hact
  · next hfree =>
      have hgood := (Good.insert hi (eq_false_of_ne_true hfree) windowExpiresAt).tick n
      have hinsert : w₁.insert t windowExpiresAt = (r, w₃) := Option.some.inj hact
      rw [hinsert] at hgood
      refine ⟨hgood.2, hgood.1, ?_⟩
      cases r with
      | error e =>
          have : e = .integrity := insert_error (congrArg Prod.fst hinsert)
          subst this
          exact sat_reloadCounter consumes
      | ok c =>
          refine Obtained.ok (.inr ?_)
          have := insert_ok (congrArg Prod.fst hinsert)
          rw [hinsert] at this
          exact this

theorem sat_loadOrCreateCounter (consumes : Bool) (now windowSeconds : ℕ) :
    CounterSat t (loadOrCreateCounter consumes now windowSeconds) (Obtained t consumes) w := by
  refine Holds.bind (sat_loadCounterForUpdate false) (fun found w₁ h₁ => ?_) fun e w₁ h₁ => ?_
  · obtain ⟨_, hok, hlocked, -⟩ := h₁
    cases hok
    cases found with
    | none => exact sat_createCounter consumes _
    | some c => exact .ok (.inl (hlocked c rfl))
  · obtain ⟨_, hok, -⟩ := h₁
    cases hok

theorem sat_store {c : Counter} {windowExpiresAt : ℕ} {limit : Option ℕ} (hown : Owned t c w)
    (hlimit : ∀ n, limit = some n → c.failureCount < n) :
    CounterSat t (store c (c.failureCount + 1) windowExpiresAt limit)
      (fun r _ => r = .ok ()) w := by
  refine sat_op fun w₁ hk hi hc r w₂ he => ?_
  simp only [counterAct] at he
  split at he
  · cases he
  have he := Option.some.inj he
  unfold CounterWorld.store at he
  split at he
  · next hins =>
      cases he
      refine ⟨Good.storeInserted hi hins ?_ ?_ hlimit, fun _ => rfl⟩ <;> rfl
  · next hins =>
      have hlocked := (hown.kept hk).resolve_right hins
      rw [hlocked.2] at he
      dsimp only at he
      rw [if_pos rfl] at he
      cases he
      refine ⟨Good.storeUpdated hi hlocked ?_ ?_ hlimit, fun _ => rfl⟩
      · rfl
      · exact written_self ..

theorem sat_refresh (id : ℕ) : CounterSat t (refresh id) (fun r _ => ∃ n, r = .ok n) w := by
  refine sat_op fun w₁ _ hi hc r w₂ he => ?_
  obtain ⟨row, hrow, hid⟩ := hc
  cases he
  refine ⟨.refl hi, fun _ => ⟨row.failureCount, ?_⟩⟩
  unfold CounterWorld.refresh
  rw [hrow]
  dsimp only
  rw [if_pos hid]

theorem sat_commit : CounterSat t commit (fun _ _ => True) w := by
  refine sat_op fun w₁ _ hi _ r w₂ he => ?_
  cases he
  exact ⟨.commit hi, fun _ => trivial⟩

theorem sat_rollback : CounterSat t rollback (fun r _ => r = .ok ()) w := by
  refine sat_op fun w₁ _ hi _ r w₂ he => ?_
  cases he
  exact ⟨.endTransaction hi, fun _ => rfl⟩

theorem sat_note : CounterSat t (note .limitExceeded) (fun _ _ => True) w := by
  refine sat_op fun w₁ _ hi _ r w₂ he => ?_
  cases he
  refine ⟨⟨⟨hi.counted, hi.row_lt, hi.counted_lt, hi.held, hi.expired, hi.fresh, hi.alone,
    hi.limits, hi.early, fun e he => ?_⟩, fun u _ => ?_⟩, fun _ => trivial⟩
  · rcases List.mem_append.mp he with he | he
    · exact hi.raised e he
    · exact List.mem_singleton.mp he
  · exact ⟨Nat.le_refl _, fun _ hd => ⟨hd, rfl⟩, fun _ hc => hc⟩

/-! ### Calls -/

theorem sat_applyExponentialBackoff (startAttempts : ℕ) :
    CounterSat t (applyExponentialBackoff startAttempts) (fun _ _ => True) w := by
  refine Holds.bind sat_loadCounter (fun found w₁ _ => ?_) fun _ _ _ => trivial
  cases found with
  | none =>
      dsimp only
      split <;> trivial
  | some counter =>
      dsimp only
      split <;> trivial

theorem sat_recordFailure (windowSeconds : Option ℕ) :
    CounterSat t (recordFailure windowSeconds) (fun _ _ => True) w := by
  refine Holds.bind sat_utcnow (fun now w₁ _ => ?_) fun _ _ _ => trivial
  refine Holds.bind (sat_loadOrCreateCounter _ _ _) (fun c w₂ h₂ => ?_) fun _ _ _ => trivial
  exact Holds.mono (sat_store (h₂.2 c rfl) nofun) fun _ _ _ => trivial

theorem sat_consumeLoaded {limit : ℕ} {c : Counter} (hown : Owned t c w) :
    CounterSat t (consumeLoaded limit c) (fun r _ => ∀ e, r = .error e → e = .limitExceeded) w := by
  unfold consumeLoaded
  split
  · refine Holds.bind sat_rollback (fun _ w₁ _ => ?_) fun e w₁ h => (nomatch h)
    rintro e ⟨rfl⟩
    rfl
  · next hbelow =>
      have hlimit : ∀ n, some limit = some n → c.failureCount < n := by
        rintro n ⟨rfl⟩
        exact Nat.lt_of_not_le hbelow
      refine Holds.bind (sat_store hown hlimit) (fun _ w₁ _ => ?_) fun e w₁ h => (nomatch h)
      refine Holds.bind (sat_refresh c.id) (fun _ w₂ _ => nofun) fun e w₂ h => ?_
      obtain ⟨n, hn⟩ := h
      cases hn

theorem sat_consumeDurableRateLimit {limit windowSeconds : ℕ} (hlimit : 1 ≤ limit)
    (hwindow : 1 ≤ windowSeconds) :
    CounterSat t (consumeDurableRateLimit limit windowSeconds)
      (fun r _ => ∀ e, r = .error e → e = .limitExceeded) w := by
  unfold consumeDurableRateLimit
  rw [if_neg (by omega)]
  refine Holds.bind sat_utcnow (fun now w₁ _ => ?_) fun e w₁ h => ?_
  · refine Holds.bind (sat_loadOrCreateCounter _ _ _) (fun c w₂ h₂ => ?_) fun e w₂ h => ?_
    · exact sat_consumeLoaded (h₂.2 c rfl)
    · obtain ⟨c, hok⟩ := h.1 rfl
      cases hok
  · obtain ⟨_, hok, -⟩ := h
    cases hok

/-- The bounds of the call are positive. -/
def CounterCall.Positive : CounterCall → Prop
  | .consume limit windowSeconds => 1 ≤ limit ∧ 1 ≤ windowSeconds
  | _ => True

theorem sat_call {call : CounterCall} (h : call.Positive) :
    CounterSat t call.call (fun _ _ => True) w := by
  cases call with
  | backoff startAttempts => exact sat_applyExponentialBackoff startAttempts
  | failure windowSeconds => exact sat_recordFailure windowSeconds
  | consume limit windowSeconds =>
      refine Holds.tryCatch (sat_consumeDurableRateLimit h.1 h.2) (fun _ _ _ => trivial)
        fun e w₁ he => ?_
      rw [he e rfl]
      exact Holds.bind sat_note (fun _ _ _ => trivial) fun _ _ _ => trivial
  | commit => exact sat_commit
  | rollback => exact Holds.mono sat_rollback fun _ _ _ => trivial

theorem sat_runSession {calls : List CounterCall} (h : ∀ call ∈ calls, call.Positive) :
    CounterSat t (runSession calls) (fun _ _ => True) w := by
  induction calls generalizing w with
  | nil => exact Holds.mono sat_rollback fun _ _ _ => trivial
  | cons call calls ih =>
      refine Holds.bind (M := fun _ _ => True) ?_ (fun _ w₁ _ => ?_) fun _ _ _ => trivial
      · exact Holds.tryCatch (sat_call (h call (List.mem_cons_self ..))) (fun _ _ _ => trivial)
          fun _ _ _ => trivial
      · exact ih fun c hc => h c (List.mem_cons_of_mem call hc)

end Programs

/-! ### Runs -/

theorem allHold_counterStart {sessions : ℕ → List CounterCall} (clock : ℕ)
    (hpositive : ∀ t, ∀ call ∈ sessions t, call.Positive) :
    AllHold counterExec counterRules (counterStart sessions clock) := by
  refine ⟨⟨nofun, nofun, nofun, nofun, nofun, nofun, nofun, ?_, rfl, nofun⟩, fun t => ?_⟩
  · intro window limit
    exact Nat.zero_le _
  · exact sat_runSession (hpositive t)

/-- In every run of sessions with positive bounds in which no row is deleted whose window
was extended after it was read, and in which the rows that a consuming call reads again
are there: at most `limit` consuming calls succeed in a window, the
stored count is the number of committed calls of its window, a window ends only
when it has expired, and a consuming call raises nothing but that the limit is
reached. -/
theorem durable_counters {sessions : ℕ → List CounterCall} {clock : ℕ} {x : CounterConf}
    (hpositive : ∀ t, ∀ call ∈ sessions t, call.Positive)
    (hx : Reach counterExec undisturbed (counterStart sessions clock) x) :
    (∀ window limit, x.world.counted.count ⟨window, some limit⟩ ≤ limit) ∧
      (∀ r, x.world.row = some r → r.failureCount = calls x.world.counted r.id) ∧
      x.world.early = 0 ∧ ∀ e ∈ x.world.raised, e = .limitExceeded := by
  have hok : CounterOk x.world :=
    (reach_holds counterRules_sound (allHold_counterStart clock hpositive) hx).1
  exact ⟨hok.limits, hok.counted, hok.early, hok.raised⟩

def undisturbedCheck (t : ℕ) (o : CounterOp) (w : CounterWorld) : Bool :=
  match o with
  | .snapshot reload => !reload || (w.visible t).isSome
  | .lock id now reload =>
      !reload || (w.visible t).any fun r => r.id = id && decide (now < r.windowExpiresAt)
  | .delete seen => w.row.all fun r => decide (r.id = seen.id →
      seen.windowExpiresAt ≤ w.clock → r.windowExpiresAt ≤ w.clock)
  | .refresh id => w.row.any fun r => r.id = id
  | _ => true

theorem undisturbed_of_check (t : ℕ) (o : CounterOp) (w : CounterWorld)
    (h : undisturbedCheck t o w = true) : undisturbed t o w := by
  cases o with
  | snapshot reload =>
      intro hreload
      simpa [undisturbedCheck, hreload] using h
  | lock id now reload =>
      intro hreload
      simp only [undisturbedCheck, hreload, Bool.not_true, Bool.false_or, Option.any_eq_true,
        Bool.and_eq_true, decide_eq_true_eq] at h
      exact h
  | delete seen =>
      intro r hr
      simp only [undisturbedCheck, Option.all_eq_true, decide_eq_true_eq] at h
      exact h r hr
  | refresh id =>
      obtain ⟨r, hr, hid⟩ := (Option.any_eq_true ..).mp h
      exact ⟨r, hr, of_decide_eq_true hid⟩
  | time | read | insert | store | commit | rollback | note => trivial

/-- One session checks the backoff before it records a failure, two only record
one, and the others consume. -/
def sampleSessions (t : ℕ) : List CounterCall :=
  if t = 0 then [.backoff 3, .failure none]
  else if t ≤ 2 then [.failure none]
  else [.consume 1 60]

theorem positive_sampleSessions (t : ℕ) : ∀ call ∈ sampleSessions t, call.Positive := by
  unfold sampleSessions
  split
  · intro call hcall
    rcases List.mem_cons.mp hcall with rfl | hcall
    · trivial
    · rw [List.mem_singleton.mp hcall]
      trivial
  split
  · intro call hcall
    rw [List.mem_singleton.mp hcall]
    trivial
  · intro call hcall
    rw [List.mem_singleton.mp hcall]
    exact ⟨Nat.le_refl 1, by decide⟩

/-- `n` statements of session `t`, between which no time passes. -/
def proceeds (t n : ℕ) : List (ℕ × ℕ) := List.replicate n (t, 0)

/-- Two sessions consume a limit of one, both before the row exists: the second
one finds that the first has created it. -/
theorem durable_counters_race :
    ∃ x, Reach counterExec undisturbed (counterStart sampleSessions 0) x ∧
      x.world.counted = [⟨0, some 1⟩] ∧ x.world.raised = [.limitExceeded] ∧
      ((∀ window limit, x.world.counted.count ⟨window, some limit⟩ ≤ limit) ∧
        (∀ r, x.world.row = some r → r.failureCount = calls x.world.counted r.id) ∧
        x.world.early = 0 ∧ ∀ e ∈ x.world.raised, e = .limitExceeded) := by
  have hrun : (runChecked counterExec undisturbedCheck (counterStart sampleSessions 0)
      (proceeds 3 3 ++ proceeds 4 3 ++ proceeds 3 4 ++ proceeds 4 7)).any
      (fun x => x.world.counted = [⟨0, some 1⟩] ∧ x.world.raised = [.limitExceeded]) = true := by
    decide +kernel
  obtain ⟨x, hx, hend⟩ := (Option.any_eq_true ..).mp hrun
  have hreach := reach_of_runChecked counterExec undisturbed_of_check .refl hx
  obtain ⟨hcounted, hraised⟩ := of_decide_eq_true hend
  exact ⟨x, hreach, hcounted, hraised, durable_counters positive_sampleSessions hreach⟩

/-- A failure is recorded, and another one is about to be, with the row locked. The check
of the backoff reads the row as its window ends, and deletes it when the lock is free:
its window has been extended by then. In the other run a row is replaced between the
commit of the call that consumed from it and the reading of its count. -/
theorem extended_window_forgotten :
    (∃ x, Reach counterExec (fun _ _ _ => True) (counterStart sampleSessions 0) x ∧
      x.world.counted.length = 3 ∧ x.world.row = some ⟨1, 1, 600000000⟩ ∧ x.world.early ≠ 0) ∧
    ∃ x, Reach counterExec (fun _ _ _ => True) (counterStart sampleSessions 0) x ∧
      x.world.raised = [.objectDeleted] := by
  constructor
  · have hrun : (run counterExec (counterStart sampleSessions 0)
        (proceeds 1 5 ++ [(1, 299000000)] ++ proceeds 2 3 ++ [(2, 1000000)] ++ proceeds 0 2 ++
          proceeds 2 1 ++ proceeds 0 6)).any
        (fun x => x.world.counted.length = 3 ∧ x.world.row = some ⟨1, 1, 600000000⟩ ∧
          x.world.early = 1) = true := by
      decide +kernel
    obtain ⟨x, hx, hend⟩ := (Option.any_eq_true ..).mp hrun
    obtain ⟨hcounted, hrow, hearly⟩ := of_decide_eq_true hend
    refine ⟨x, reach_of_run counterExec .refl hx, hcounted, hrow, ?_⟩
    rw [hearly]
    exact Nat.one_ne_zero
  · have hrun : (run counterExec (counterStart sampleSessions 0)
        (proceeds 3 4 ++ [(3, 60000000)] ++ proceeds 4 7 ++ proceeds 3 2)).any
        (fun x => x.world.raised = [.objectDeleted]) = true := by
      decide +kernel
    obtain ⟨x, hx, hend⟩ := (Option.any_eq_true ..).mp hrun
    exact ⟨x, reach_of_run counterExec .refl hx, of_decide_eq_true hend⟩

end SitBank.Security.RateLimits
