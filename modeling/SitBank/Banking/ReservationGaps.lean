import SitBank.Banking.PublicReservations
import Mathlib.Data.List.Pairwise

/-!
Reservations for one key are a lifetime apart, as long as each call decides about the
version of the row that it has locked.

The committed row carries the end of the last reservation, and a new one is written only
by the session that holds the row and has seen that end, or into an empty place that the
unique constraint protects. A call that raises has rolled back what it has flushed.
-/

namespace SitBank.Banking.PublicReservations

open SitBank.Interaction SitBank.Security

/-- The session has no older instance of the row that it locks, and the keys that
`audit_reference` needs are there. -/
def undisturbed (t : ℕ) (o : PublicOp) (w : World) : Prop :=
  match o with
  | .selectForUpdate => w.cache t = none ∨ w.cache t = w.row
  | .auditReference => w.sessionKeys = true
  | _ => True

/-- The last committed version, or the first one. -/
def lastWritten (row : Option Reservation) (writes : List (ℕ × Reservation)) :
    Option Reservation :=
  match writes.getLast? with
  | some write => some write.2
  | none => row

structure ReservationOk (first : Option Reservation) (ttl : ℤ) (w : World) : Prop where
  locked : w.holder.isSome = true → w.row.isSome = true
  flushed : ∀ t r, w.flushed = some (t, r) → r.expiresAt = r.createdAt + ttl ∧
    ∀ row, w.row = some row → w.holder = some t ∧ row.expiresAt ≤ r.createdAt
  apart : w.writes.Pairwise fun a b => a.2.createdAt + ttl ≤ b.2.createdAt
  covered : ∀ write ∈ w.writes, ∃ row, w.row = some row ∧
    write.2.createdAt + ttl ≤ row.expiresAt
  stored : w.row = lastWritten first w.writes

/-- What session `t` can rely on. -/
structure Kept (t : ℕ) (w w' : World) : Prop where
  cache : w'.cache t = w.cache t
  flushed : ∀ r, w'.flushed = some (t, r) ↔ w.flushed = some (t, r)
  locked : w.holder = some t → w'.holder = some t ∧ w'.row = w.row
  writes : ∀ r, (t, r) ∈ w'.writes ↔ (t, r) ∈ w.writes

def publicRules (first : Option Reservation) (ttl : ℤ) : Rules PublicOp World where
  rely := Kept
  guar t w w' := ∀ u, u ≠ t → Kept u w w'
  inv := ReservationOk first ttl
  cond := undisturbed

theorem Kept.refl (t : ℕ) (w : World) : Kept t w w :=
  ⟨rfl, fun _ => Iff.rfl, fun h => ⟨h, rfl⟩, fun _ => Iff.rfl⟩

theorem Kept.trans {t : ℕ} {w₁ w₂ w₃ : World} (h : Kept t w₁ w₂) (h' : Kept t w₂ w₃) :
    Kept t w₁ w₃ where
  cache := h'.cache.trans h.cache
  flushed r := (h'.flushed r).trans (h.flushed r)
  locked hholder := by
    obtain ⟨hholder₂, hrow₂⟩ := h.locked hholder
    obtain ⟨hholder₃, hrow₃⟩ := h'.locked hholder₂
    exact ⟨hholder₃, hrow₃.trans hrow₂⟩
  writes r := (h'.writes r).trans (h.writes r)

theorem publicRules_sound (first : Option Reservation) (ttl : ℤ) :
    (publicRules first ttl).Sound where
  refl := Kept.refl
  trans _ _ _ _ := Kept.trans
  others _ _ _ _ hne _ hg := hg _ (Ne.symm hne)

/-! ### Ends of transactions -/

section Worlds

variable {w : World} {t u : ℕ} {first : Option Reservation} {ttl : ℤ}

theorem released_of_ne {holder : Option ℕ} (hne : u ≠ t) (h : holder = some u) :
    released holder t = some u := by
  have hother : holder ≠ some t := by
    rw [h]
    exact fun heq => hne (Option.some.inj heq)
  rw [released, if_neg hother, h]

/-- The session has nothing flushed, and has written nothing. -/
structure Clean (t : ℕ) (w : World) : Prop where
  idle : ∀ r, w.flushed ≠ some (t, r)
  unwritten : ∀ r, (t, r) ∉ w.writes

theorem Clean.kept {w' : World} (h : Clean t w) (hk : Kept t w w') : Clean t w' where
  idle r hr := h.idle r ((hk.flushed r).mp hr)
  unwritten r hr := h.unwritten r ((hk.writes r).mp hr)

/-- The flushed version of another session survives. -/
theorem release_ok (h : ReservationOk first ttl w) {flushed : Option (ℕ × Reservation)}
    (hflushed : ∀ u r, flushed = some (u, r) → w.flushed = some (u, r) ∧ u ≠ t) :
    ReservationOk first ttl (w.release t flushed) where
  locked hholder := by
    apply h.locked
    show w.holder.isSome = true
    have hreleased : (released w.holder t).isSome = true := hholder
    unfold released at hreleased
    split at hreleased
    · cases hreleased
    · exact hreleased
  flushed u r hr := by
    obtain ⟨hold, hne⟩ := hflushed u r hr
    obtain ⟨hexpires, hrow⟩ := h.flushed u r hold
    refine ⟨hexpires, fun row hsome => ?_⟩
    obtain ⟨hholder, hend⟩ := hrow row hsome
    exact ⟨released_of_ne hne hholder, hend⟩
  apart := h.apart
  covered := h.covered
  stored := h.stored

theorem kept_release {flushed : Option (ℕ × Reservation)} (hne : u ≠ t)
    (hflushed : ∀ r, flushed = some (u, r) ↔ w.flushed = some (u, r)) :
    Kept u w (w.release t flushed) where
  cache := if_neg hne
  flushed := hflushed
  locked hholder := ⟨released_of_ne hne hholder, rfl⟩
  writes _ := Iff.rfl

theorem rollback_ok (h : ReservationOk first ttl w) (t : ℕ) :
    ReservationOk first ttl (w.rollback t) := by
  unfold World.rollback
  split
  · next v r hv =>
      apply release_ok h
      intro u r' hr'
      split at hr'
      · cases hr'
      · next hne =>
          obtain ⟨rfl, rfl⟩ := Prod.mk.inj (Option.some.inj hr')
          exact ⟨hv, hne⟩
  · refine release_ok h fun u r' hr' => ?_
    cases hr'

theorem kept_rollback (hne : u ≠ t) : Kept u w (w.rollback t) := by
  unfold World.rollback
  split
  · next v r hv =>
      apply kept_release hne
      intro r'
      rw [hv]
      by_cases hvt : v = t
      · subst hvt
        simp [Ne.symm hne]
      · simp [hvt]
  · next hv =>
      apply kept_release hne
      simp [hv]

theorem clean_rollback (h : ∀ r, (t, r) ∉ w.writes) : Clean t (w.rollback t) := by
  unfold World.rollback
  split
  · next v r hv =>
      refine ⟨fun r' hr' => ?_, h⟩
      have hflushed : (if v = t then none else some (v, r)) = some (t, r') := hr'
      split at hflushed
      · cases hflushed
      · next hne => exact hne (Prod.mk.inj (Option.some.inj hflushed)).1
  · refine ⟨fun r' hr' => ?_, h⟩
    cases hr'

/-- Without a flushed version of its own a session commits nothing. -/
theorem commit_of_clean (h : Clean t w) : w.commit t = w.rollback t := by
  unfold World.commit World.rollback
  split
  · next v r hv =>
      have hne : v ≠ t := fun heq => h.idle r (heq ▸ hv)
      rw [if_neg hne, if_neg hne]
  · rfl

theorem commit_of_flushed {r : Reservation} (h : w.flushed = some (t, r)) :
    w.commit t = { w.release t none with row := some r, writes := w.writes ++ [(t, r)] } := by
  unfold World.commit
  simp [h]

theorem lastWritten_append (row : Option Reservation) (writes : List (ℕ × Reservation))
    (write : ℕ × Reservation) : lastWritten row (writes ++ [write]) = some write.2 := by
  simp [lastWritten]

/-- The new reservation begins when the last one has ended. -/
theorem commit_flushed_ok (h : ReservationOk first ttl w) (httl : 0 ≤ ttl) {r : Reservation}
    (hr : w.flushed = some (t, r)) : ReservationOk first ttl (w.commit t) := by
  obtain ⟨hexpires, hrow⟩ := h.flushed t r hr
  have hearlier : ∀ write ∈ w.writes, write.2.createdAt + ttl ≤ r.createdAt := by
    intro write hwrite
    obtain ⟨row, hsome, hend⟩ := h.covered write hwrite
    exact Int.le_trans hend (hrow row hsome).2
  rw [commit_of_flushed hr]
  exact {
    locked := fun _ => rfl
    flushed := fun u r' hr' => by cases hr'
    apart := by
      refine List.pairwise_append.mpr ⟨h.apart, List.pairwise_singleton _ _, ?_⟩
      intro a ha b hb
      rw [List.mem_singleton.mp hb]
      exact hearlier a ha
    covered := by
      intro write hwrite
      refine ⟨r, rfl, ?_⟩
      rcases List.mem_append.mp hwrite with hwrite | hwrite
      · have := hearlier write hwrite
        omega
      · rw [List.mem_singleton.mp hwrite]
        exact Int.le_of_eq hexpires.symm
    stored := (lastWritten_append first w.writes (t, r)).symm }

theorem kept_commit_flushed (h : ReservationOk first ttl w) {r : Reservation}
    (hr : w.flushed = some (t, r)) (hne : u ≠ t) : Kept u w (w.commit t) := by
  rw [commit_of_flushed hr]
  exact {
    cache := if_neg hne
    flushed := by
      intro r'
      rw [hr]
      simp [Ne.symm hne, World.release]
    locked := by
      intro hholder
      -- The row is there, so that it would be locked by the session that has flushed it.
      have hsome : w.row.isSome = true := h.locked (by rw [hholder]; rfl)
      obtain ⟨row, hrow⟩ := Option.isSome_iff_exists.mp hsome
      have hflusher := ((h.flushed t r hr).2 row hrow).1
      exact absurd (Option.some.inj (hholder.symm.trans hflusher)) hne
    writes := by
      intro r'
      simp [hne] }

end Worlds

/-! ### Statements and requests -/

abbrev PublicSat {α : Type} (first : Option Reservation) (ttl : ℤ) (t : ℕ) (p : PublicReq α)
    (Q : Except PublicError α → World → Prop) (w : World) : Prop :=
  Holds publicExec (publicRules first ttl) t p Q w

/-- Statements that flush nothing. -/
def Steady : PublicOp → Prop
  | .insert _ => False
  | .update _ _ => False
  | .commitReserved => False
  | _ => True

section Programs

variable {w : World} {t : ℕ} {first : Option Reservation} {ttl : ℤ}

/-- A row that enters the identity map of a session concerns nobody else. -/
theorem load_ok (h : ReservationOk first ttl w) (t : ℕ) (r : Reservation) :
    ReservationOk first ttl (w.load t r) := ⟨h.locked, h.flushed, h.apart, h.covered, h.stored⟩

theorem kept_load {u : ℕ} (hne : u ≠ t) (r : Reservation) : Kept u w (w.load t r) :=
  ⟨if_neg hne, fun _ => Iff.rfl, fun h => ⟨h, rfl⟩, fun _ => Iff.rfl⟩

/-- A session that need not wait takes the lock. -/
theorem lock_ok (h : ReservationOk first ttl w) {r : Reservation} (hrow : w.row = some r)
    (hfree : waits w.holder t ≠ true) :
    ReservationOk first ttl { w.load t r with holder := some t } where
  locked _ := by
    show w.row.isSome = true
    rw [hrow]
    rfl
  flushed u r' hr' := by
    obtain ⟨hexpires, hold⟩ := h.flushed u r' hr'
    refine ⟨hexpires, fun row hsome => ?_⟩
    obtain ⟨hholder, hend⟩ := hold row hsome
    rw [hholder] at hfree
    have hsame : u = t := by
      simpa [waits] using hfree
    exact ⟨by rw [hsame], hend⟩
  apart := h.apart
  covered := h.covered
  stored := h.stored

theorem kept_lock {u : ℕ} (hne : u ≠ t) (r : Reservation) (hfree : waits w.holder t ≠ true) :
    Kept u w { w.load t r with holder := some t } where
  cache := if_neg hne
  flushed _ := Iff.rfl
  locked hholder := by
    rw [hholder] at hfree
    simp [waits, hne] at hfree
  writes _ := Iff.rfl

theorem steady_exec {o : PublicOp} {c : PublicChoice} {r : Except PublicError (PublicRes o)}
    {w' : World} (ho : Steady o) (hi : ReservationOk first ttl w) (hclean : Clean t w)
    (he : publicExec t o c w = some (r, w')) :
    (∀ u, u ≠ t → Kept u w w') ∧ ReservationOk first ttl w' ∧ Clean t w' := by
  have hsame : (∀ u, u ≠ t → Kept u w w) ∧ ReservationOk first ttl w ∧ Clean t w :=
    ⟨fun u _ => .refl u w, hi, hclean⟩
  have hrollback : (∀ u, u ≠ t → Kept u w (w.rollback t)) ∧
      ReservationOk first ttl (w.rollback t) ∧ Clean t (w.rollback t) :=
    ⟨fun u hne => kept_rollback hne, rollback_ok hi t, clean_rollback hclean.unwritten⟩
  cases o with
  | ask q =>
      cases he
      exact hsame
  | clock =>
      cases he
      exact hsame
  | loadUser =>
      simp only [publicExec] at he
      split at he <;> cases he
      · exact hsame
      · next row _ =>
          exact ⟨fun u hne => kept_load hne row, load_ok hi t row, hclean.idle, hclean.unwritten⟩
  | selectForUpdate =>
      simp only [publicExec] at he
      split at he
      · split at he <;> cases he <;> exact hsame
      · next row hrow =>
          split at he
          · cases he
            exact hsame
          · split at he
            · cases he
            · next hfree =>
                cases he
                exact ⟨fun u hne => kept_lock hne row hfree, lock_ok hi hrow hfree, hclean.idle,
                  hclean.unwritten⟩
  -- what a reservation writes and commits is no steady statement
  | insert record => exact ho.elim
  | update loaded assigned => exact ho.elim
  | auditReference =>
      simp only [publicExec] at he
      split at he <;> cases he <;> exact hsame
  | commitReserved => exact ho.elim
  -- nothing is written, so a commit is a rollback
  | commit =>
      cases he
      rw [commit_of_clean hclean]
      exact hrollback
  | rollback =>
      cases he
      exact hrollback

theorem sat_steady {α : Type} {p : PublicReq α} (hp : Prog.All Steady p) (hw : Clean t w) :
    PublicSat first ttl t p (fun _ w' => Clean t w') w :=
  Holds.of_all (fun _ _ h hk => h.kept hk)
    (fun _ _ _ _ _ ho hclean hi _ he => steady_exec ho hi hclean he) hp hw

/-- The row is locked by the session, and this is its version. -/
def Locked (t : ℕ) (record : Reservation) (w : World) : Prop :=
  w.holder = some t ∧ w.row = some record

theorem Locked.kept {record : Reservation} {w' : World} (h : Locked t record w)
    (hk : Kept t w w') : Locked t record w' := by
  obtain ⟨hholder, hrow⟩ := hk.locked h.1
  exact ⟨hholder, hrow.trans h.2⟩

theorem sat_selectForUpdate (hw : Clean t w) :
    PublicSat first ttl t selectForUpdate
      (fun r w' => Clean t w' ∧ ∀ record, r = .ok (some record) → Locked t record w') w := by
  refine Holds.perform fun w₁ hr hi hc c r w₂ he => ?_
  obtain ⟨hg, hi₂, hclean⟩ := steady_exec (o := .selectForUpdate) trivial hi (hw.kept hr) he
  refine ⟨hg, hi₂, hclean, ?_⟩
  rintro record rfl
  simp only [publicExec] at he
  split at he
  · split at he <;> cases he
  · next row hrow =>
      split at he
      · cases he
      · split at he
        · cases he
        · cases he
          -- An instance that the session already has is the committed version.
          have hidentity : w₁.identity t row = row := by
            unfold World.identity
            rcases hc with hnone | hcommitted
            · rw [hnone, Option.getD_none]
            · rw [hcommitted, hrow, Option.getD_some]
          refine ⟨rfl, ?_⟩
          show w₁.row = some (w₁.identity t row)
          rw [hidentity, hrow]

/-- The session has flushed this version and written nothing yet. -/
def Reserved (t : ℕ) (record : Reservation) (w : World) : Prop :=
  w.flushed = some (t, record) ∧ ∀ r, (t, r) ∉ w.writes

theorem Reserved.kept {record : Reservation} {w' : World} (h : Reserved t record w)
    (hk : Kept t w w') : Reserved t record w' :=
  ⟨(hk.flushed record).mpr h.1, fun r hr => h.2 r ((hk.writes r).mp hr)⟩

/-- What a lookup with a new reservation leaves behind. -/
def ReserveResult (t : ℕ) (r : Except PublicError Reservation) (w : World) : Prop :=
  match r with
  | .ok record => Reserved t record w
  | .error _ => Clean t w

theorem merge_self (assigned stored : Reservation) :
    stored.merge assigned stored = assigned := by
  simp [Reservation.merge, written_self]

theorem flushed_ok (h : ReservationOk first ttl w) {r : Reservation}
    (hexpires : r.expiresAt = r.createdAt + ttl)
    (hrow : ∀ row, w.row = some row → w.holder = some t ∧ row.expiresAt ≤ r.createdAt) :
    ReservationOk first ttl { w with flushed := some (t, r) } where
  locked := h.locked
  flushed u r' hr' := by
    obtain ⟨rfl, rfl⟩ := Prod.mk.inj (Option.some.inj hr')
    exact ⟨hexpires, hrow⟩
  apart := h.apart
  covered := h.covered
  stored := h.stored

theorem kept_flushed {u : ℕ} {r : Reservation} (hne : u ≠ t)
    (hidle : ∀ r', w.flushed ≠ some (u, r')) : Kept u w { w with flushed := some (t, r) } where
  cache := rfl
  flushed r' := by
    constructor
    · intro h
      exact absurd (Prod.mk.inj (Option.some.inj h)).1 (Ne.symm hne)
    · intro h
      exact absurd h (hidle r')
  locked h := ⟨h, rfl⟩
  writes _ := Iff.rfl

theorem sat_update {record assigned : Reservation}
    (hexpires : assigned.expiresAt = assigned.createdAt + ttl)
    (hend : record.expiresAt ≤ assigned.createdAt) (hw : Clean t w) (hlocked : Locked t record w) :
    PublicSat first ttl t (update record assigned)
      (fun r w' => match r with
        | .ok _ => Reserved t assigned w'
        | .error _ => Clean t w') w := by
  refine Holds.perform fun w₁ hr hi _ c r w₂ he => ?_
  have hclean := hw.kept hr
  obtain ⟨hholder, hrow⟩ := hlocked.kept hr
  simp only [publicExec] at he
  split at he
  · cases he
    exact ⟨fun u _ => .refl u w₁, hi, hclean⟩
  split at he
  · next hnone =>
      rw [hrow] at hnone
      cases hnone
  next stored hstored =>
    obtain rfl := Option.some.inj (hrow.symm.trans hstored)
    cases he
    rw [merge_self]
    refine ⟨fun u hne => kept_flushed hne fun r' hr' => ?_, flushed_ok hi hexpires ?_, rfl,
      hclean.unwritten⟩
    · have hother := ((hi.flushed u r' hr').2 record hrow).1
      exact hne (Option.some.inj (hother.symm.trans hholder))
    · intro row hsome
      rw [hrow] at hsome
      obtain rfl := Option.some.inj hsome
      exact ⟨hholder, hend⟩

theorem sat_insert {record : Reservation} (hexpires : record.expiresAt = record.createdAt + ttl)
    (hw : Clean t w) :
    PublicSat first ttl t (insert record)
      (fun r w' => match r with
        | .ok _ => Reserved t record w'
        | .error _ => Clean t w') w := by
  refine Holds.perform fun w₁ hr hi _ c r w₂ he => ?_
  have hclean := hw.kept hr
  simp only [publicExec] at he
  split at he
  · cases he
    exact ⟨fun u _ => .refl u w₁, hi, hclean⟩
  split at he
  · cases he
  next hfree =>
    split at he
    · cases he
      exact ⟨fun u _ => .refl u w₁, hi, hclean⟩
    · next hempty =>
        cases he
        have hnone : w₁.row = none := by simpa using hempty
        refine ⟨fun u hne => kept_flushed hne fun r' hr' => ?_,
          flushed_ok hi hexpires fun row hsome => ?_, rfl, hclean.unwritten⟩
        · simp [World.flushWaits, hr', waits, hne] at hfree
        · rw [hnone] at hsome
          cases hsome

theorem steady_auditFailure : Prog.All Steady auditPublicIdempotencyFailure :=
  Prog.All.bind (.perform trivial) fun _ => .perform trivial

variable (hmac : List UInt8 → List UInt8 → List UInt8)

theorem sat_rejectReservation (record : Reservation) (p : Prepared) (hw : Clean t w) :
    PublicSat first ttl t (rejectReservation hmac record p) (ReserveResult t) w := by
  refine Holds.bind (sat_steady steady_auditFailure hw) (fun _ w₁ h₁ => ?_) fun _ _ h => h
  split
  · exact h₁
  · split
    · exact h₁
    · split <;> exact h₁

theorem sat_reuseOrReject {record : Reservation} {p : Prepared} (hp : p.ttl = ttl)
    (hw : Clean t w) (hlocked : Locked t record w) :
    PublicSat first ttl t (reuseOrReject hmac record p) (ReserveResult t) w := by
  unfold reuseOrReject
  split
  · next hexpired =>
      have hexpires : p.record.expiresAt = p.record.createdAt + ttl := by
        rw [← hp]
        rfl
      exact Holds.bind (sat_update hexpires hexpired hw hlocked) (fun _ _ h => h) fun _ _ h => h
  · exact sat_rejectReservation hmac record p hw

/-- After the unique constraint has refused the row, the transaction starts anew. -/
theorem sat_reselect {p : Prepared} (hp : p.ttl = ttl) (hw : Clean t w) :
    PublicSat first ttl t (selectForUpdate.bind fun found =>
      match found with
      | none => unavailable
      | some record => reuseOrReject hmac record p) (ReserveResult t) w := by
  refine Holds.bind (sat_selectForUpdate hw) (fun found w₁ h₁ => ?_) fun _ _ h => h.1
  cases found with
  | none => exact h₁.1
  | some record => exact sat_reuseOrReject hmac hp h₁.1 (h₁.2 record rfl)

theorem sat_reserveRow {p : Prepared} (hp : p.ttl = ttl) (hw : Clean t w) :
    PublicSat first ttl t (reserveRow hmac p) (ReserveResult t) w := by
  refine Holds.bind (sat_selectForUpdate hw) (fun found w₁ h₁ => ?_) fun _ _ h => h.1
  cases found with
  | some record => exact sat_reuseOrReject hmac hp h₁.1 (h₁.2 record rfl)
  | none =>
      have hexpires : p.record.expiresAt = p.record.createdAt + ttl := by
        rw [← hp]
        rfl
      have hinsert : PublicSat first ttl t ((insert p.record).bind fun _ => pure p.record)
          (ReserveResult t) w₁ :=
        Holds.bind (sat_insert hexpires h₁.1) (fun _ _ h => h) fun _ _ h => h
      refine Holds.tryCatch hinsert (fun _ _ h => h) fun e w₂ h₂ => ?_
      have hclean : Clean t w₂ := h₂
      cases e with
      | integrity =>
          have hrollback : Prog.All Steady rollback := .perform trivial
          refine Holds.bind (sat_steady hrollback hclean) (fun _ w₃ h₃ => ?_) fun _ _ h => h
          exact sat_reselect hmac hp h₃
      | auth message statusCode => exact hclean
      | audit => exact hclean
      | operational => exact hclean
      | runtime => exact hclean

end Programs

/-- The configured lifetime in microseconds. -/
def configuredTtl (setting : Option ℤ) : ℤ :=
  (publicTransactionIdempotencyTtlSeconds setting).getD 0 * 1000000

theorem configuredTtl_nonneg (setting : Option ℤ) : 0 ≤ configuredTtl setting := by
  unfold configuredTtl publicTransactionIdempotencyTtlSeconds
  cases setting with
  | none => decide
  | some value =>
      dsimp only
      split
      · decide
      · rw [Option.getD_some]
        omega

theorem prepare_ttl {hmac : List UInt8 → List UInt8 → List UInt8} {setting : Option ℤ}
    {call : PublicCall} {currentTime : ℤ} {p : Prepared}
    (h : prepare hmac setting call currentTime = some p) : p.ttl = configuredTtl setting := by
  unfold prepare at h
  obtain ⟨seconds, hseconds, h⟩ := Option.bind_eq_some_iff.mp h
  obtain ⟨keys, -, h⟩ := Option.bind_eq_some_iff.mp h
  obtain ⟨keyVerifier, -, h⟩ := Option.bind_eq_some_iff.mp h
  obtain ⟨payloadVerifier, -, h⟩ := Option.bind_eq_some_iff.mp h
  obtain rfl := Option.some.inj h
  unfold configuredTtl
  rw [hseconds, Option.getD_some]

/-- What a call leaves behind: one version written by the session, or none. -/
def CallResult (t : ℕ) (r : Except PublicError ℤ) (w : World) : Prop :=
  (∀ record, w.flushed ≠ some (t, record)) ∧
    match r with
    | .ok reservedAt => ∃ record, (t, record) ∈ w.writes ∧ record.createdAt = reservedAt
    | .error _ => ∀ record, (t, record) ∉ w.writes

theorem CallResult.kept {t : ℕ} {r : Except PublicError ℤ} {w w' : World} (h : CallResult t r w)
    (hk : Kept t w w') : CallResult t r w' := by
  refine ⟨fun record hflushed => h.1 record ((hk.flushed record).mp hflushed), ?_⟩
  cases r with
  | ok reservedAt =>
      obtain ⟨record, hmem, htime⟩ := h.2
      exact ⟨record, (hk.writes record).mpr hmem, htime⟩
  | error e => exact fun record hmem => h.2 record ((hk.writes record).mp hmem)

section Requests

variable {w : World} {t : ℕ} {first : Option Reservation}
  (hmac : List UInt8 → List UInt8 → List UInt8) (setting : Option ℤ)

theorem sat_reserve (call : PublicCall) (hw : Clean t w) :
    PublicSat first (configuredTtl setting) t
      (reservePublicTransactionIdempotency hmac setting call) (ReserveResult t) w := by
  unfold reservePublicTransactionIdempotency
  split
  · have hclock : Prog.All Steady (readClock call.now) := by
      unfold readClock
      split
      · trivial
      · exact .perform trivial
    refine Holds.bind (sat_steady hclock hw) (fun currentTime w₁ h₁ => ?_) fun _ _ h => h
    split
    · exact h₁
    · next p hp => exact sat_reserveRow hmac (prepare_ttl hp) h₁
  · exact Holds.bind (sat_steady steady_auditFailure hw) (fun _ _ h => h) fun _ _ h => h

theorem sat_auditReference {record : Reservation} {ttl : ℤ} (hw : Reserved t record w) :
    PublicSat first ttl t auditReference (fun r w' => r = .ok () ∧ Reserved t record w') w := by
  refine Holds.perform fun w₁ hr hi hc c r w₂ he => ?_
  have hkeys : w₁.sessionKeys = true := hc
  simp only [publicExec, hkeys, if_true] at he
  cases he
  exact ⟨fun u _ => .refl u w₁, hi, rfl, hw.kept hr⟩

theorem sat_commitReserved {record : Reservation} (hw : Reserved t record w) :
    PublicSat first (configuredTtl setting) t commitReserved
      (fun r w' => match r with
        | .ok _ => CallResult t (.ok record.createdAt) w'
        | .error _ => Reserved t record w') w := by
  refine Holds.perform fun w₁ hr hi _ c r w₂ he => ?_
  have hreserved := hw.kept hr
  simp only [publicExec] at he
  split at he
  · cases he
    exact ⟨fun u _ => .refl u w₁, hi, hreserved⟩
  · cases he
    refine ⟨fun u hne => kept_commit_flushed hi hreserved.1 hne,
      commit_flushed_ok hi (configuredTtl_nonneg setting) hreserved.1, ?_⟩
    rw [commit_of_flushed hreserved.1]
    refine ⟨fun r' hr' => ?_, record, List.mem_append_right _ (List.mem_singleton_self _), rfl⟩
    cases hr'

theorem sat_rollback_reserved {record : Reservation} {ttl : ℤ} (hw : Reserved t record w) :
    PublicSat first ttl t rollback (fun _ w' => Clean t w') w := by
  refine Holds.perform fun w₁ hr hi _ c r w₂ he => ?_
  cases he
  exact ⟨fun u hne => kept_rollback hne, rollback_ok hi t, clean_rollback (hw.kept hr).2⟩

theorem Clean.result (h : Clean t w) (e : PublicError) : CallResult t (.error e) w :=
  ⟨h.idle, h.unwritten⟩

theorem sat_finishReservation {record : Reservation} (hw : Reserved t record w) :
    PublicSat first (configuredTtl setting) t finishReservation
      (fun r w' => match r with
        | .ok _ => CallResult t (.ok record.createdAt) w'
        | .error e => CallResult t (.error e) w') w := by
  refine Holds.bind (sat_auditReference hw) (fun _ w₁ h₁ => ?_) fun _ _ h => nomatch h.1
  refine Holds.tryCatch (sat_commitReserved setting h₁.2) (fun _ _ h => h) fun e w₂ h₂ => ?_
  exact Holds.bind (sat_rollback_reserved h₂)
    (fun _ _ h => h.result (.auth unavailableMessage 503)) fun e' _ h => h.result e'

theorem sat_validate (call : PublicCall) (hw : Clean t w) :
    PublicSat first (configuredTtl setting) t
      (validatePublicTransactionPayload hmac setting call) (CallResult t) w := by
  have hask : Prog.All Steady (ask .sessionDirty) := .perform trivial
  have hcommit : Prog.All Steady commit := .perform trivial
  refine Holds.bind (sat_steady hask hw) (fun dirty w₁ h₁ => ?_) fun _ _ h => h.result _
  have hrefused : PublicSat first (configuredTtl setting) t
      (auditPublicIdempotencyFailure.bind fun _ => (unavailable : PublicReq ℤ))
      (CallResult t) w₁ :=
    Holds.bind (sat_steady steady_auditFailure h₁) (fun _ _ h => h.result _) fun _ _ h => h.result _
  cases dirty with
  | true => exact hrefused
  | false =>
      simp only [Bool.false_eq_true, if_false]
      split
      · exact Holds.bind (sat_steady hcommit h₁) (fun _ _ h => h.result _) fun _ _ h => h.result _
      · split
        · exact hrefused
        · refine Holds.bind (sat_reserve hmac setting call h₁) (fun record w₂ h₂ => ?_)
            fun _ _ h => Clean.result h _
          exact Holds.bind (sat_finishReservation setting h₂) (fun _ _ h => h) fun _ _ h => h

/-- The commit at the end of the request changes nothing any more. -/
theorem sat_commit_result {r : Except PublicError ℤ} {ttl : ℤ} (hw : CallResult t r w) :
    PublicSat first ttl t commit (fun r' w' => r' = .ok () ∧ CallResult t r w') w := by
  refine Holds.perform fun w₁ hr hi _ c r' w₂ he => ?_
  have hresult := hw.kept hr
  cases he
  have hcommit : w₁.commit t = w₁.rollback t := by
    unfold World.commit World.rollback
    split
    · next v record hv =>
        have hne : v ≠ t := fun heq => hresult.1 record (heq ▸ hv)
        rw [if_neg hne, if_neg hne]
    · rfl
  rw [hcommit]
  refine ⟨fun u hne => kept_rollback hne, rollback_ok hi t, rfl, ?_⟩
  have hwrites : (w₁.rollback t).writes = w₁.writes := by
    unfold World.rollback
    split <;> rfl
  have hidle : ∀ record, (w₁.rollback t).flushed ≠ some (t, record) := by
    intro record hflushed
    unfold World.rollback at hflushed
    split at hflushed
    · next v old hv =>
        have hne : v ≠ t := fun heq => hresult.1 old (heq ▸ hv)
        rw [if_neg hne] at hflushed
        exact hne (Prod.mk.inj (Option.some.inj hflushed)).1
    · cases hflushed
  refine ⟨hidle, ?_⟩
  rw [hwrites]
  exact hresult.2

theorem sat_serve (call : PublicCall) (hw : Clean t w) :
    PublicSat first (configuredTtl setting) t (serve hmac setting call) (CallResult t) w := by
  have hload : Prog.All Steady loadUser := .perform trivial
  have hearlier : Prog.All Steady earlierWork := by
    refine Prog.All.bind (.perform trivial) fun committed => ?_
    cases committed
    · trivial
    · exact .perform trivial
  refine Holds.bind (sat_steady hload hw) (fun _ w₁ h₁ => ?_) fun _ _ h => h.result _
  refine Holds.bind (sat_steady hearlier h₁) (fun _ w₂ h₂ => ?_) fun _ _ h => h.result _
  have hcall : PublicSat first (configuredTtl setting) t
      ((validatePublicTransactionPayload hmac setting call).tryCatch fun e =>
        commit.bind fun _ => .raise e) (CallResult t) w₂ :=
    Holds.tryCatch (sat_validate hmac setting call h₂) (fun _ _ h => h) fun e w₃ h₃ =>
      Holds.bind (sat_commit_result h₃) (fun _ _ h => h.2) fun _ _ h => nomatch h.1
  refine Holds.bind hcall (fun reservedAt w₃ h₃ => ?_) fun _ _ h => h
  exact Holds.bind (sat_commit_result h₃) (fun _ _ h => h.2) fun _ _ h => nomatch h.1

end Requests

/-! ### Runs -/

theorem publicStart_ends (hmac : List UInt8 → List UInt8 → List UInt8) (row : Option Reservation)
    (sessionKeys : Bool) (setting : Option ℤ) (calls : ℕ → PublicCall) :
    AllEnd publicExec (publicRules row (configuredTtl setting)) CallResult
      (publicStart hmac row sessionKeys setting calls) := by
  have hok : ReservationOk row (configuredTtl setting)
      (publicStart hmac row sessionKeys setting calls).world :=
    ⟨fun h => absurd h (by simp [publicStart]), fun u r hr => (by cases hr), .nil,
      List.forall_mem_nil _, rfl⟩
  have hclean (t : ℕ) : Clean t (publicStart hmac row sessionKeys setting calls).world :=
    ⟨fun r hr => (by cases hr), fun r => List.not_mem_nil⟩
  exact ⟨hok, fun t => sat_serve hmac setting (calls t) (hclean t)⟩

/-- Two written versions of different sessions are a lifetime apart, in one order or the
other. -/
theorem apart_of_mem {ttl : ℤ} {writes : List (ℕ × Reservation)}
    (h : writes.Pairwise fun a b => a.2.createdAt + ttl ≤ b.2.createdAt)
    {a b : ℕ × Reservation} (ha : a ∈ writes) (hb : b ∈ writes) (hne : a.1 ≠ b.1) :
    a.2.createdAt + ttl ≤ b.2.createdAt ∨ b.2.createdAt + ttl ≤ a.2.createdAt := by
  have hdistinct : a ≠ b := fun heq => hne (by rw [heq])
  have hsymm : Std.Symm fun a b : ℕ × Reservation =>
      a.2.createdAt + ttl ≤ b.2.createdAt ∨ b.2.createdAt + ttl ≤ a.2.createdAt :=
    ⟨fun _ _ => Or.symm⟩
  have heither : writes.Pairwise fun a b =>
      a.2.createdAt + ttl ≤ b.2.createdAt ∨ b.2.createdAt + ttl ≤ a.2.createdAt :=
    h.imp fun hle => Or.inl hle
  exact heither.forall ha hb hdistinct

/-- Successful calls are a lifetime apart, whatever keys they use, and a call that raises
has no part in the committed row. -/
theorem reservations_apart (hmac : List UInt8 → List UInt8 → List UInt8)
    (row : Option Reservation) (sessionKeys : Bool) (setting : Option ℤ)
    (calls : ℕ → PublicCall) {x : PublicConf}
    (h : Reach publicExec undisturbed (publicStart hmac row sessionKeys setting calls) x) :
    (∀ t u a b, t ≠ u → x.prog t = .ret a → x.prog u = .ret b →
      a + configuredTtl setting ≤ b ∨ b + configuredTtl setting ≤ a) ∧
    (∀ t e, x.prog t = .raise e → ∀ write ∈ x.world.writes, write.1 ≠ t) ∧
    x.world.row = lastWritten row x.world.writes := by
  have hstable : ∀ t r w w', CallResult t r w →
      (publicRules row (configuredTtl setting)).rely t w w' → CallResult t r w' :=
    fun _ _ _ _ hresult hk => hresult.kept hk
  obtain ⟨hok, hends⟩ := reach_ends (publicRules_sound row (configuredTtl setting)) hstable
    (publicStart_ends hmac row sessionKeys setting calls) h
  refine ⟨fun t u a b hne hta hub => ?_, fun t e hte write hwrite heq => ?_, hok.stored⟩
  · have ht := hends t
    have hu := hends u
    rw [hta] at ht
    rw [hub] at hu
    obtain ⟨record, hmem, rfl⟩ := ht.2
    obtain ⟨record', hmem', rfl⟩ := hu.2
    exact apart_of_mem hok.apart hmem hmem' hne
  · have ht := hends t
    rw [hte] at ht
    obtain ⟨u, record⟩ := write
    have hsame : u = t := heq
    rw [hsame] at hwrite
    exact ht.2 record hwrite

instance (t : ℕ) (o : PublicOp) (w : World) : Decidable (undisturbed t o w) :=
  match o with
  | .selectForUpdate => inferInstanceAs (Decidable (w.cache t = none ∨ w.cache t = w.row))
  | .auditReference => inferInstanceAs (Decidable (w.sessionKeys = true))
  | .ask _ => inferInstanceAs (Decidable True)
  | .clock => inferInstanceAs (Decidable True)
  | .loadUser => inferInstanceAs (Decidable True)
  | .insert _ => inferInstanceAs (Decidable True)
  | .update _ _ => inferInstanceAs (Decidable True)
  | .commitReserved => inferInstanceAs (Decidable True)
  | .commit => inferInstanceAs (Decidable True)
  | .rollback => inferInstanceAs (Decidable True)

/-- The HMACs of the sample: the subkey, and the verifiers of the key and of the payload. -/
def sampleHmac (_ message : List UInt8) : List UInt8 :=
  if message.length = 41 then
    [170, 103, 5, 4, 225, 33, 91, 114, 171, 156, 217, 142, 96, 115, 51, 213, 99, 180, 166,
    155, 106, 59, 28, 162, 48, 132, 15, 54, 205, 182, 30, 83]
  else if message.length = 40 then
    [17, 243, 225, 121, 87, 205, 172, 99, 44, 59, 126, 233, 126, 32, 61, 40, 222, 171, 191,
    23, 79, 124, 105, 7, 193, 133, 65, 55, 250, 12, 219, 42]
  else
    [37, 74, 103, 113, 243, 189, 204, 202, 204, 101, 231, 131, 37, 56, 125, 238, 154, 75,
    213, 105, 255, 69, 214, 144, 6, 247, 45, 121, 42, 190, 57, 222]

/-- All sessions send the same request. -/
def sampleCall : PublicCall where
  payloadValid := true
  storeGiven := false
  userKnown := true
  idempotencyKey := "11111111-2222-4333-8444-555555555555"
  payloadMessage :=
    "payload:\x7b\"amount\":\"10.00\",\"currency\":\"SGD\",\"payee\":\"PAYEE-001\"\x7d"
  now := none
  config := ⟨some [("june", some (List.replicate 32 1))], "june"⟩

/-- A reservation that ended 60 seconds after the start of the clock. -/
def sampleRow : Reservation where
  hmacKeyId := "june"
  keyVerifier := hexdigest (sampleHmac [] (List.replicate 40 0))
  payloadVerifier := hexdigest (sampleHmac [] [])
  status := .reserved
  resultReference := none
  createdAt := 0
  updatedAt := 0
  expiresAt := 60000000

/-- Session `t` performs `n` statements at the time `time`. -/
def goes (t n : ℕ) (time : ℤ) : List (ℕ × PublicChoice) :=
  List.replicate n (t, ⟨false, false, time⟩)

/-- The result of a session that has ended. -/
def reservedAt (x : PublicConf) (t : ℕ) : Option ℤ :=
  match x.prog t with
  | .ret time => some time
  | _ => none

theorem prog_of_reservedAt {x : PublicConf} {t : ℕ} {time : ℤ}
    (h : reservedAt x t = some time) : x.prog t = .ret time := by
  unfold reservedAt at h
  split at h
  · next hret => rw [hret, Option.some.inj h]
  · cases h

/-- A second call succeeds when the reservation of the first one ends. -/
theorem reservations_apart_sample :
    ∃ x, Reach publicExec undisturbed
        (publicStart sampleHmac none true (some 60) fun _ => sampleCall) x ∧
      x.prog 0 = .ret 0 ∧ x.prog 1 = .ret 60000000 ∧
      (0 + configuredTtl (some 60) ≤ 60000000 ∨ 60000000 + configuredTtl (some 60) ≤ 0) := by
  have hrun : (runChecked publicExec (fun t o w => decide (undisturbed t o w))
      (publicStart sampleHmac none true (some 60) fun _ => sampleCall)
      (goes 0 9 0 ++ goes 1 9 60000000)).any
      (fun x => reservedAt x 0 = some 0 ∧ reservedAt x 1 = some 60000000) = true := by
    decide +kernel
  obtain ⟨x, hx, hend⟩ := (Option.any_eq_true ..).mp hrun
  obtain ⟨hfirst, hsecond⟩ := of_decide_eq_true hend
  have hreach := reach_of_runChecked publicExec (fun _ _ _ => of_decide_eq_true) .refl hx
  have hfirst' := prog_of_reservedAt hfirst
  have hsecond' := prog_of_reservedAt hsecond
  exact ⟨x, hreach, hfirst', hsecond', (reservations_apart sampleHmac none true (some 60)
    (fun _ => sampleCall) hreach).1 0 1 0 60000000 (by decide) hfirst' hsecond'⟩

/-- Both sessions have loaded the user, and with it the expired reservation. The second one
still sees it after the first has replaced it, and replaces it again a second later. -/
theorem expired_reservation_replaced_twice :
    ∃ x, Reach publicExec (fun _ _ _ => True)
        (publicStart sampleHmac (some sampleRow) true (some 60) fun _ => sampleCall) x ∧
      x.prog 0 = .ret 70000000 ∧ x.prog 1 = .ret 71000000 ∧
      ¬(70000000 + configuredTtl (some 60) ≤ 71000000 ∨
        71000000 + configuredTtl (some 60) ≤ 70000000) := by
  have hrun : (run publicExec
      (publicStart sampleHmac (some sampleRow) true (some 60) fun _ => sampleCall)
      (goes 0 1 70000000 ++ goes 1 1 70000000 ++ goes 0 8 70000000 ++ goes 1 8 71000000)).any
      (fun x => reservedAt x 0 = some 70000000 ∧ reservedAt x 1 = some 71000000) = true := by
    decide +kernel
  obtain ⟨x, hx, hend⟩ := (Option.any_eq_true ..).mp hrun
  obtain ⟨hfirst, hsecond⟩ := of_decide_eq_true hend
  exact ⟨x, reach_of_run publicExec .refl hx, prog_of_reservedAt hfirst,
    prog_of_reservedAt hsecond, by decide⟩

end SitBank.Banking.PublicReservations
