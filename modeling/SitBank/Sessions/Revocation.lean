import SitBank.Orm.Solo
import SitBank.Orm.Writes
import SitBank.Sessions.Store

/-!
Revocation is permanent, as long as a record that was read as ended is not saved.

Every program of the session code either leaves the two end markers of a record
as they were loaded or sets both, with one exception: `save_session` clears them.
Where the saved instance was loaded before the record ended, clearing changes
nothing and the `UPDATE` leaves the markers of the row alone; where it was loaded
afterwards, the row is open again.
-/

namespace SitBank.Sessions

open SitBank.Interaction SitBank.Orm

/-! ### The markers of a record -/

/-- The markers are the same. -/
def SameMarks (r r' : ServerSideSession) : Prop :=
  r'.revokedAt = r.revokedAt ∧ r'.endedAt = r.endedAt

/-- Both markers are set. -/
def Ended (r : ServerSideSession) : Prop := r.revokedAt ≠ none ∧ r.endedAt ≠ none

/-- Both markers are set, or none. -/
def Consistent (r : ServerSideSession) : Prop := r.revokedAt = none ↔ r.endedAt = none

def evolves (_ : Key) (r r' : ServerSideSession) : Prop :=
  (r.revokedAt ≠ none → r'.revokedAt ≠ none) ∧ (r.endedAt ≠ none → r'.endedAt ≠ none)

/-- A changed instance keeps the markers it was loaded with, or has both. -/
def Kept (k : Key) (e : Entry store k) : Prop :=
  match e.loaded with
  | some l => SameMarks l e.current ∨ Ended e.current
  | none => Consistent e.current

/-- What a commit does to a record. -/
inductive Change : Option ServerSideSession → Option ServerSideSession → Prop
  | same (r : Option ServerSideSession) : Change r r
  | update {r r' : ServerSideSession} (h : SameMarks r r' ∨ Ended r') : Change (some r) (some r')
  | insert {r : ServerSideSession} (h : Consistent r) : Change none (some r)

theorem Change.evolves_row {k : Key} {a b : Option ServerSideSession} (h : Change a b)
    {r : ServerSideSession} (ha : a = some r) : ∃ r', b = some r' ∧ evolves k r r' := by
  cases h with
  | same => exact ⟨r, ha, fun h => h, fun h => h⟩
  | update h =>
      cases ha
      rcases h with ⟨hr, he⟩ | ⟨hr, he⟩
      · exact ⟨_, rfl, fun h => by rwa [hr], fun h => by rwa [he]⟩
      · exact ⟨_, rfl, fun _ => hr, fun _ => he⟩
  | insert => cases ha

theorem Ended.consistent {r : ServerSideSession} (h : Ended r) : Consistent r :=
  ⟨fun hr => absurd hr h.1, fun he => absurd he h.2⟩

theorem Change.consistent {a b : Option ServerSideSession} (h : Change a b)
    (ha : ∀ r, a = some r → Consistent r) {r : ServerSideSession} (hb : b = some r) :
    Consistent r := by
  cases h with
  | same => exact ha r hb
  | @update r₀ r' h =>
      cases hb
      rcases h with ⟨hr, he⟩ | h
      · rw [Consistent, hr, he]
        exact ha r₀ rfl
      · exact h.consistent
  | insert h =>
      cases hb
      exact h

/-! ### Commits -/

/-- The end markers that a session writes over were read as empty. -/
def savesUnmarked (t : ℕ) (o : Op store Err) (w : SessWorld) : Prop :=
  match o with
  | .mark (.saving k) => ∀ e l, (w.sess t).cache k = some e → e.loaded = some l →
      l.revokedAt = none ∧ l.endedAt = none
  | _ => True

def sessSpec : StepSpec store Err where
  evolves := evolves
  commits _ w d := ∀ k, Change (w.db.row k) (d.row k)
  ext _ _ _ := True
  cond := savesUnmarked

theorem sessSpec_lawful : sessSpec.Lawful where
  evolves_refl _ _ := ⟨fun h => h, fun h => h⟩
  evolves_trans _ _ _ _ h h' := ⟨fun x => h'.1 (h.1 x), fun x => h'.2 (h.2 x)⟩
  commits_evolves _ _ _ h k _ hr := (h k).evolves_row (k := k) hr
  ext_refl _ _ := trivial
  ext_trans _ _ _ _ _ _ _ := trivial
  ext_quiet _ _ _ _ := trivial
  ext_commits _ _ _ _ _ _ _ _ := trivial

theorem col_ne_none {α : Type} [DecidableEq α] {l c d : Option α} (hc : c ≠ none)
    (hd : l ≠ none → d ≠ none) : col l c d ≠ none := by
  unfold col
  split
  · next h => exact hd (h ▸ hc)
  · exact hc

/-- The row that a kept instance writes. -/
theorem Kept.change {k : Key} {e : Entry store k} (h : Kept k e) {d : Option ServerSideSession}
    (hd : ∀ l, e.loaded = some l → ∃ r, d = some r ∧ evolves k l r) : Change d (e.write d) := by
  obtain ⟨loaded, c⟩ := e
  cases loaded with
  | none =>
      cases d with
      | none => exact .insert h
      | some r => exact .same _
  | some l =>
      obtain ⟨r, rfl, hrev, hend⟩ := hd l rfl
      refine .update ?_
      rcases h with ⟨hr, he⟩ | ⟨hr, he⟩
      · exact .inl ⟨if_pos hr, if_pos he⟩
      · exact .inr ⟨col_ne_none hr hrev, col_ne_none he hend⟩

theorem covers_kept : Covers sessSpec Kept := by
  intro t w hi hch _ k
  by_cases hk : k ∈ (w.sess t).dirty
  · obtain ⟨e, he, hkept⟩ := hch k hk
    have hrow : (w.view t).row k = e.write (w.db.row k) := by
      simp [World.view, Session.apply, hk, he]
    rw [hrow]
    exact hkept.change fun l hl => hi.2 t k e l he hl
  · rw [view_row_of_not_mem hk]
    exact .same _

/-! ### Programs that keep the markers -/

/-- Assignments keep the markers or set both; a record is added with both or
none. -/
def Op.careful : Op store Err → Prop
  | .assign _ f => ∀ r, SameMarks r (f r) ∨ Ended (f r)
  | .addRow _ r => Consistent r
  | .mark _ => False
  | _ => True

abbrev Careful {α : Type} (p : SessReq α) : Prop := Prog.All Op.careful p

theorem SameMarks.ended {r r' : ServerSideSession} (h : SameMarks r r') (he : Ended r) :
    Ended r' := by
  rw [Ended, h.1, h.2]
  exact he

theorem writes_assign {k : Key} {f : ServerSideSession → ServerSideSession}
    (hf : ∀ r, SameMarks r (f r) ∨ Ended (f r)) : (Op.assign k f : Op store Err).writes Kept := by
  refine ⟨hf, ?_⟩
  rintro ⟨loaded, c⟩ hkept
  cases loaded with
  | none =>
      change Consistent (f c)
      rcases hf c with hsame | hended
      · rw [Consistent, hsame.1, hsame.2]
        exact hkept
      · exact hended.consistent
  | some l =>
      change SameMarks l (f c) ∨ Ended (f c)
      rcases hf c with hsame | hended
      · rcases hkept with hl | hc
        · exact .inl ⟨hsame.1.trans hl.1, hsame.2.trans hl.2⟩
        · exact .inr (hsame.ended hc)
      · exact .inr hended

theorem Op.careful.writes {o : Op store Err} (h : Op.careful o) : o.writes Kept := by
  cases o with
  | assign k f => exact writes_assign h
  | addRow k r => exact h
  | load | select | selectAll | lockRows | lockWhere | add | query | commit | rollback | now | uuid4
  | ask | check | mark => trivial

theorem careful_assign {k : Key} {f : ServerSideSession → ServerSideSession}
    (hf : ∀ r, SameMarks r (f r) ∨ Ended (f r)) : Careful (assignRecord k f) :=
  .perform hf

section Careful

variable (cfg : Config)

theorem careful_endSessionRecord (k : Key) (reason : EndReason) (now : ℤ) :
    Careful (endSessionRecord k reason now) := by
  refine Prog.All.bind (.perform trivial) fun record => ?_
  split
  · trivial
  · exact careful_assign fun r => .inr ⟨nofun, nofun⟩

theorem careful_sessionRecordForSid (sid : String) : Careful (sessionRecordForSid cfg sid) :=
  .perform trivial

theorem careful_endSessionId (sid : String) (reason : EndReason) :
    Careful (endSessionId cfg sid reason) := by
  refine (careful_sessionRecordForSid cfg sid).bind fun found => ?_
  split
  · trivial
  · exact Prog.All.bind (.perform trivial) fun now => careful_endSessionRecord _ _ _

theorem careful_commitQuietly : Careful commitQuietly := by
  refine Prog.All.tryCatch (.perform trivial) fun e => ?_
  split
  · exact .perform trivial
  · exact Prog.All.bind (.perform trivial) fun _ => trivial

theorem careful_insertAuditEvent : Careful insertAuditEvent :=
  Prog.All.bind (.perform trivial) fun _ => Prog.All.bind (.perform trivial) fun _ =>
    .perform trivial

theorem careful_auditEvent : Careful auditEvent :=
  Prog.All.tryCatch (careful_insertAuditEvent.bind fun _ => .perform trivial) fun _ =>
    .perform trivial

theorem careful_auditEventRequired : Careful auditEventRequired :=
  careful_insertAuditEvent.tryCatch fun _ => trivial

theorem careful_newSession : Careful newSession := Prog.All.bind (.perform trivial) fun _ => trivial

theorem careful_endAndReplace (k : Key) (reason : EndReason) (now : ℤ) :
    Careful (endAndReplace k reason now) :=
  (careful_endSessionRecord k reason now).bind fun _ =>
    careful_commitQuietly.bind fun _ => careful_newSession

theorem careful_openRecord (visit : Visit) (sid : String) (k : Key) :
    Careful (openRecord cfg visit sid k) := by
  refine Prog.All.bind (.perform trivial) fun now => Prog.All.bind (.perform trivial)
    fun record => ?_
  split
  · exact careful_newSession
  split
  · exact careful_endAndReplace _ _ _
  split
  · exact careful_endAndReplace _ _ _
  split
  · refine Prog.All.bind (Prog.All.bind (.perform trivial) fun _ => ?_) fun _ => careful_newSession
    exact (careful_endSessionRecord _ _ _).bind fun _ => careful_auditEvent
  · refine Prog.All.bind ?_ fun _ => ?_
    · unfold touchRecord
      split
      · trivial
      · exact careful_assign fun r => .inl ⟨rfl, rfl⟩
    · trivial

theorem careful_openSession (visit : Visit) : Careful (openSession cfg visit) := by
  unfold openSession
  split
  · exact careful_newSession
  · refine (careful_sessionRecordForSid cfg _).bind fun found => ?_
    split
    · exact careful_newSession
    · exact careful_openRecord cfg visit _ _

theorem careful_expireStaleSessions (user : ℕ) (now : ℤ) :
    Careful (expireStaleSessions cfg user now) :=
  Prog.All.bind (.perform trivial) fun stale =>
    Prog.All.forEach (fun k => careful_endSessionRecord k .expired now) stale

theorem careful_activeSessionRecords (user : ℕ) (component : Component) :
    Careful (activeSessionRecords cfg user component) := by
  refine Prog.All.bind (.perform trivial) fun now => Prog.All.bind (.perform trivial) fun _ => ?_
  exact (careful_expireStaleSessions cfg user now).bind fun _ => trivial

theorem careful_endRecords (ks : List Key) (reason : EndReason) : Careful (endRecords ks reason) :=
  Prog.All.forEach (fun _ => Prog.All.bind (.perform trivial) fun _ =>
    careful_endSessionRecord _ _ _) ks

theorem careful_revokeSession (k : Key) (user : Option ℕ) (reason : EndReason) :
    Careful (revokeSession k user reason) := by
  refine Prog.All.bind (.perform trivial) fun found => ?_
  split
  · trivial
  · refine Prog.All.bind (.perform trivial) fun record => ?_
    split
    · trivial
    · exact Prog.All.bind (.perform trivial) fun now => careful_endSessionRecord _ _ _

theorem careful_revokeCurrentSession (s : DatabaseSession) (reason : EndReason) :
    Careful (revokeCurrentSession cfg s reason) :=
  (careful_revokeSession _ _ _).bind fun _ => trivial

theorem careful_revokeAllSessions (user : ℕ) (reason : EndReason) (component : Component) :
    Careful (revokeAllSessions cfg user reason component) :=
  (careful_activeSessionRecords cfg user component).bind fun _ => careful_endRecords _ _

theorem careful_rotateSessionId (s : DatabaseSession) : Careful (rotateSessionId cfg s) := by
  unfold rotateSessionId
  split
  · trivial
  · exact (careful_endSessionId cfg _ _).bind fun _ => Prog.All.bind (.perform trivial)
      fun _ => trivial

theorem careful_currentOrNewRecord (sid : String) (now : ℤ) :
    Careful (currentOrNewRecord cfg sid now) := by
  refine (careful_sessionRecordForSid cfg sid).bind fun found => ?_
  split
  · exact .perform (show Consistent (newRecord cfg now) from Iff.rfl)
  · trivial

theorem careful_loadRecords (ks : List Key) : Careful (loadRecords ks) := by
  induction ks with
  | nil => trivial
  | cons k ks ih => exact Prog.All.bind (.perform trivial) fun _ => ih.bind fun _ => trivial

theorem careful_enforceActiveSessionCap (s : DatabaseSession) (user : ℕ) :
    Careful (enforceActiveSessionCap cfg s user) := by
  refine Prog.All.bind (.perform trivial) fun now => ?_
  refine (careful_activeSessionRecords cfg user _).bind fun records => ?_
  refine Prog.All.bind ?_ fun counted => ?_
  · refine (careful_sessionRecordForSid cfg _).bind fun current => ?_
    split
    · trivial
    · refine Prog.All.bind (.perform trivial) fun r => ?_
      split <;> trivial
  · refine (careful_loadRecords _).bind fun loaded => Prog.All.bind ?_ fun _ => ?_
    · exact Prog.All.forEach (fun k => careful_endSessionRecord k _ _) _
    · split
      · trivial
      · exact .perform trivial

theorem careful_run (s : DatabaseSession) (a : Action) : Careful (a.run cfg s) := by
  cases a with
  | auditEvent => exact careful_auditEvent.bind fun _ => trivial
  | commit => exact Prog.All.bind (.perform trivial) fun _ => trivial
  | rollback => exact Prog.All.bind (.perform trivial) fun _ => trivial
  | update f => trivial
  | clear => trivial
  | lookup => exact (careful_sessionRecordForSid cfg _).bind fun _ => trivial
  | revokeSession k user reason => exact (careful_revokeSession _ _ _).bind fun _ => trivial
  | revokeCurrentSession reason => exact careful_revokeCurrentSession cfg s reason
  | revokeOtherSessions user reason =>
      exact ((careful_activeSessionRecords cfg _ _).bind fun _ => careful_endRecords _ _).bind
        fun _ => trivial
  | revokeAllSessions user reason component =>
      exact (careful_revokeAllSessions cfg _ _ _).bind fun _ => trivial
  | rotateSessionId => exact careful_rotateSessionId cfg s
  | registerSessionMetadata user loginTime =>
      refine Prog.All.bind (Prog.All.bind (.perform trivial) fun now => ?_) fun _ => ?_
      swap
      · trivial
      refine (careful_currentOrNewRecord cfg _ _).bind fun _ => ?_
      exact careful_assign fun r => .inl ⟨rfl, rfl⟩
  | enforceActiveSessionCap user =>
      exact (careful_enforceActiveSessionCap cfg s user).bind fun _ => trivial
  | lockUserAccount user =>
      refine Prog.All.bind ?_ fun _ => ?_
      swap
      · trivial
      refine (careful_revokeAllSessions cfg _ _ _).bind fun _ => ?_
      exact careful_auditEventRequired.bind fun _ => .perform trivial

theorem careful_attempt {α : Type} {p : SessReq α} (hp : Careful p) : Careful (attempt p) := by
  refine Prog.All.tryCatch (hp.bind fun a => ?_) fun _ => ?_ <;> trivial

theorem careful_runActions (s : DatabaseSession) (actions : List Action) :
    Careful (runActions cfg s actions) := by
  induction actions generalizing s with
  | nil => trivial
  | cons a actions ih =>
      refine (careful_attempt (careful_run cfg s a)).bind fun result => ?_
      split
      · exact ih _
      · refine Prog.All.bind (.perform trivial) fun handled => ?_
        split
        · exact ih s
        · trivial

theorem careful_enforceAuthenticatedSessionContext (s : DatabaseSession) :
    Careful (enforceAuthenticatedSessionContext cfg s) := by
  unfold enforceAuthenticatedSessionContext
  split
  · trivial
  · refine Prog.All.bind ?_ fun severity => ?_
    · refine Prog.All.bind (.perform trivial) fun changed => ?_
      split
      · trivial
      · refine Prog.All.bind (.perform trivial) fun severe => ?_
        split
        · trivial
        · exact Prog.All.bind (.perform trivial) fun family => trivial
    · split
      · trivial
      · exact careful_auditEvent.bind fun _ => trivial
      · refine Prog.All.bind ?_ fun _ => ?_
        · unfold auditUnless
          split
          · trivial
          · exact careful_auditEvent
        · trivial
      · refine careful_auditEvent.bind fun _ => ?_
        exact (careful_revokeCurrentSession cfg _ _).bind fun _ => trivial

theorem careful_touchSession (visit : Visit) (s : DatabaseSession) (now : ℤ) :
    Careful (touchSession cfg visit s now) := by
  refine (careful_enforceAuthenticatedSessionContext cfg s).bind fun result => ?_
  dsimp only
  split
  · trivial
  · refine Prog.All.bind ?_ fun _ => ?_
    swap
    · trivial
    unfold updateSessionActivity
    split
    · trivial
    · refine (careful_sessionRecordForSid cfg _).bind fun found => ?_
      split
      · trivial
      · exact Prog.All.bind (.perform trivial) fun now => careful_assign fun r => .inl ⟨rfl, rfl⟩

theorem careful_enforceSessionLifetime (visit : Visit) (s : DatabaseSession) :
    Careful (enforceSessionLifetime cfg visit s) := by
  unfold enforceSessionLifetime
  split
  · trivial
  refine Prog.All.bind (.perform trivial) fun instant => ?_
  dsimp only
  split
  · refine Prog.All.bind ((careful_revokeCurrentSession cfg _ _).bind fun s => ?_) fun _ => ?_
    swap
    · trivial
    refine careful_auditEvent.bind fun _ => ?_
    split
    · trivial
    · exact careful_rotateSessionId cfg _
  split
  · refine careful_auditEvent.bind fun _ => ?_
    exact (careful_revokeCurrentSession cfg _ _).bind fun _ => trivial
  split
  · exact (careful_revokeCurrentSession cfg _ _).bind fun _ => trivial
  · exact careful_touchSession cfg visit _ _

theorem careful_enforceSessionActivity (visit : Visit) (s : DatabaseSession) :
    Careful (enforceSessionActivity cfg visit s) := by
  unfold enforceSessionActivity
  split
  · exact careful_enforceSessionLifetime cfg visit s
  · refine (careful_sessionRecordForSid cfg _).bind fun found => ?_
    split
    · exact careful_enforceSessionLifetime cfg visit s
    · refine Prog.All.bind (.perform trivial) fun record => ?_
      split
      · trivial
      · exact careful_enforceSessionLifetime cfg visit s

end Careful

/-! ### Requests -/

section Requests

variable {t : ℕ} {w : SessWorld} (cfg : Config) (visit : Visit)

theorem Careful.sat {α : Type} {p : SessReq α} (hp : Careful p) (h : Changes Kept t w) :
    Sat sessSpec t p (fun _ w' => Changes Kept t w') w :=
  All.changes sessSpec_lawful covers_kept (hp.mono fun _ => Op.careful.writes) h

/-- The record that is about to be saved was read without end markers. -/
def Unmarked (t : ℕ) (k : Key) (w : SessWorld) : Prop :=
  ∀ e l, (w.sess t).cache k = some e → e.loaded = some l → l.revokedAt = none ∧ l.endedAt = none

theorem sat_mark (p : Point) (h : Changes Kept t w) :
    Sat sessSpec t (mark (S := store) p) (fun _ w' => Changes Kept t w') w :=
  Sat.mark sessSpec_lawful fun _ _ _ hg => h.grows hg

theorem sat_markSaving (k : Key) (h : Changes Kept t w) :
    Sat sessSpec t (mark (S := store) (.saving k))
      (fun _ w' => Changes Kept t w' ∧ Unmarked t k w') w := by
  refine Holds.perform fun w₁ hr hi hc c r w' hx => ?_
  have hguar : sessSpec.rules.guar t w₁ w' :=
    ⟨fun u hu => exec_frame hu hx,
      .inl (exec_db (o := (Op.mark (Point.saving k) : Op store Err)) nofun hx)⟩
  obtain ⟨w₂, h₂, rfl⟩ := exec_iff.mp hx
  cases h₂
  have hl : Loads t w₁ (w₁.tick c.tick) := .of_sess rfl rfl
  exact ⟨hguar, hl.inv sessSpec_lawful hi, h.sess hr.1.sess, hc⟩

/-- Clearing markers that were read as empty changes nothing. -/
theorem sat_assignSaved {k : Key} {f : ServerSideSession → ServerSideSession}
    (hf : ∀ r, (f r).revokedAt = none ∧ (f r).endedAt = none) (h : Changes Kept t w)
    (hu : Unmarked t k w) :
    Sat sessSpec t (assignRecord k f) (fun _ w' => Changes Kept t w') w := by
  cases he : (w.sess t).cache k with
  | none => exact Sat.assign_none sessSpec_lawful he fun _ hg => h.grows hg
  | some e =>
      refine Sat.assign sessSpec_lawful he fun w₂ _ hs => h.put hs ?_
      obtain ⟨hrev, hend⟩ := hf e.current
      have hl := hu e
      obtain ⟨loaded, c⟩ := e
      cases loaded with
      | none => exact ⟨fun _ => hend, fun _ => hrev⟩
      | some l =>
          obtain ⟨hlr, hle⟩ := hl l he rfl
          exact .inl ⟨hrev.trans hlr.symm, hend.trans hle.symm⟩

theorem sat_saveSession (s : DatabaseSession) (h : Changes Kept t w) :
    Sat sessSpec t (saveSession cfg visit s) (fun _ w' => Changes Kept t w') w := by
  unfold saveSession
  split
  · refine Careful.sat ?_ h
    split
    · exact (careful_endSessionId cfg _ _).bind fun _ => careful_commitQuietly
    · trivial
  · refine Holds.bind (Careful.sat (.perform trivial) h) (fun now w₁ h₁ => ?_) fun _ _ h => h
    refine Holds.bind (Careful.sat (.perform trivial) h₁) (fun _ w₂ h₂ => ?_) fun _ _ h => h
    refine Holds.bind (Careful.sat (careful_currentOrNewRecord cfg _ _) h₂) (fun _ w₃ h₃ => ?_)
      fun _ _ h => h
    refine Holds.bind (sat_markSaving _ h₃) (fun _ w₄ h₄ => ?_) fun _ _ h => h.1
    refine Holds.bind (sat_assignSaved (fun _ => ⟨rfl, rfl⟩) h₄.1 h₄.2) (fun _ w₅ h₅ => ?_)
      fun _ _ h => h
    exact Careful.sat careful_commitQuietly h₅

theorem sat_serveOpened (actions : List Action) (s : DatabaseSession) (h : Changes Kept t w) :
    Sat sessSpec t (serveOpened cfg visit actions s) (fun _ w' => Changes Kept t w') w := by
  refine Holds.bind (sat_mark _ h) (fun _ w₁ h₁ => ?_) fun _ _ h => h
  refine Holds.bind (Careful.sat (careful_attempt (careful_enforceSessionActivity cfg visit s)) h₁)
    (fun hooked w₂ h₂ => ?_) fun _ _ h => h
  split
  · exact sat_saveSession cfg visit _ h₂
  · exact sat_saveSession cfg visit _ h₂
  · exact Holds.bind (Careful.sat (careful_runActions cfg _ _) h₂)
      (fun s w₃ h₃ => sat_saveSession cfg visit s h₃) fun _ _ h => h

theorem sat_serve (actions : List Action) (hclean : Clean t w) :
    Sat sessSpec t (serve cfg visit actions) (fun _ _ => True) w := by
  refine Holds.bind (M := fun _ _ => True) (Holds.tryCatch (M := fun _ _ => True) ?_
    (fun _ _ _ => trivial) fun _ _ _ => trivial)
    (fun _ _ _ => Sat.rollback fun _ _ => trivial) fun _ _ _ => trivial
  refine Holds.bind (Careful.sat (careful_openSession cfg visit) hclean.changes)
    (fun s w₁ h₁ => ?_) fun _ _ _ => trivial
  exact Holds.mono (sat_serveOpened cfg visit actions s h₁) fun _ _ _ => trivial

end Requests

/-! ### Runs -/

section Runs

variable {cfg : Config} {visits : ℕ → Visit} {actions : ℕ → List Action} {db : SessDb} {clock : ℤ}

theorem allHold_start :
    AllHold exec sessSpec.rules (start cfg visits actions db clock) :=
  ⟨⟨fun _ _ _ he => (nomatch he), fun _ _ _ _ he => (nomatch he)⟩,
    fun t => sat_serve cfg (visits t) (actions t) rfl⟩

end Runs

/-! ### Opening a revoked session -/

/-- The operations up to the point where the record is refused. -/
def Op.reads : Op store Err → Prop
  | .load _ => True
  | .select _ => True
  | .now => True
  | .uuid4 => True
  | _ => False

/-- The answers that are possible while the record `k` is revoked. -/
def Answers (k : Key) : (o : Op store Err) → Except (Exc Err) (Res store Err o) → Prop
  | .select q, .ok x => ∃ d : SessDb, (d.row k).isSome ∧ x = q d
  | .load j, .ok r => j = k → r.revokedAt ≠ none
  | _, _ => True

/-- The record `k` is revoked, and thread `t` has changed nothing and holds no
older copy of it. -/
structure Sees (t : ℕ) (k : Key) (w : SessWorld) : Prop where
  idle : Idle t w
  revoked : ∃ r, w.db.row k = some r ∧ r.revokedAt ≠ none
  copies : ∀ e, (w.sess t).cache k = some e → e.current.revokedAt ≠ none

theorem Op.reads.passive {o : Op store Err} (ho : Op.reads o) : o.passive := by
  cases o with
  | load | select | now | uuid4 => trivial
  | selectAll | lockRows | lockWhere | assign | addRow | add | query | commit | rollback | ask
  | check
  | mark => exact absurd ho id

theorem Sees.answers {t : ℕ} {k : Key} {w w' : SessWorld} (h : Sees t k w) {o : Op store Err}
    (ho : Op.reads o) {c : Choice} {r : Except (Exc Err) (Res store Err o)}
    (he : exec t o c w = some (r, w')) : Answers k o r := by
  obtain ⟨d, hd, hrev⟩ := h.revoked
  obtain ⟨w₁, hact, rfl⟩ := exec_iff.mp he
  cases o with
  | select q =>
      have hview : w.view t = w.db := view_idle h.idle
      simp only [act, execSelect, failed] at hact
      split at hact
      · cases hact
        trivial
      -- an idle session sees the rows as they are, the revoked one included
      · rw [hview] at hact
        split at hact
        · next hq =>
            cases hact
            exact ⟨w.db, by rw [hd]; rfl, hq.symm⟩
        · next hq =>
            cases hact
            exact ⟨w.db, by rw [hd]; rfl, hq.symm⟩
  | load j =>
      simp only [act, execLoad, failed] at hact
      split at hact
      · next e hcache =>
          cases hact
          rintro rfl
          exact h.copies e hcache
      · split at hact
        · cases hact
          trivial
        · split at hact
          · next hrow =>
              cases hact
              rintro rfl
              rw [hd] at hrow
              cases hrow
              exact hrev
          · cases hact
            trivial
  | now | uuid4 => trivial
  | selectAll | lockRows | lockWhere | assign | addRow | add | query | commit | rollback | ask
  | check
  | mark => exact absurd ho id

theorem Sees.step {t : ℕ} {k : Key} {w w' : SessWorld} (h : Sees t k w) (htidy : Tidy w')
    {o : Op store Err} (ho : Op.reads o) {c : Choice} {r : Except (Exc Err) (Res store Err o)}
    (he : exec t o c w = some (r, w')) : Sees t k w' := by
  have hdrift := exec_passive ho.passive he
  obtain ⟨hdb, hidle⟩ := hdrift.idle h.idle
  have hrow : ∃ r, w'.db.row k = some r ∧ r.revokedAt ≠ none := by
    rw [hdb]
    exact h.revoked
  refine ⟨hidle, hrow, fun e hcache => ?_⟩
  obtain ⟨d, hd, hrev⟩ := h.revoked
  rcases hdrift with hl | ⟨_, hfresh, _⟩
  · rcases hl.fresh k e hcache with h₀ | ⟨d', hd', rfl⟩
    · exact h.copies e h₀
    · rw [hd] at hd'
      cases hd'
      exact hrev
  · have hloaded := htidy t k e hcache (hidle.not_mem k)
    have hcurrent := hfresh k e _ hcache hloaded
    rw [hdb, hd] at hcurrent
    cases hcurrent
    exact hrev

section Later

variable {cfg : Config} {visits : ℕ → Visit} {actions : ℕ → List Action} {db : SessDb} {clock : ℤ}

end Later

/-! ### Two requests with one session -/

def sampleData : SessionData := ⟨some 1, none, none, some 1, some 1, false, []⟩

def sampleConfig : Config where
  component := .customer
  sessionLookupHash sid := sid
  signSessionPayload _ d := if d = sampleData then "signed" else ""
  verifySessionPayload _ p := if p = "signed" then some sampleData else none
  sessionInactivitySeconds := 300
  sessionAbsoluteLifetimeSeconds := 3600
  pendingMfaMaxAgeSeconds := 300
  records := [⟨.customer, "s"⟩]

/-- One open session. -/
def sampleDb : SessDb where
  row k := if k = ⟨.customer, "s"⟩ then
      some ⟨0, some 1, some "signed", 1000000, 1000000, 301000000, none, none, none⟩
    else none
  log := []

def succeeds (t n : ℕ) : List (ℕ × Choice) := List.replicate n (t, ⟨false, 0, "n", false⟩)

def revoked (x : SessConf) : Bool :=
  (x.world.db.row ⟨.customer, "s"⟩).any fun r => r.revokedAt.isSome

/-- The place where the program stands. -/
def point : SessReq Unit → Option Point
  | .op (.mark p) _ => some p
  | _ => none

end SitBank.Sessions
