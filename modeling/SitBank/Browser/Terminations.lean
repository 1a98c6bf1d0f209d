import Mathlib.Data.List.Nodup
import SitBank.Browser.Invariants

/-!
Ending sessions of a user from a browser (`app/auth/services.py`).

A given session, or every other one, is ended in the transaction of the request, and a
best-effort audit event follows. The event commits what it finds, or rolls it back, so the
revocation shares its fate; the function returns all the same. What is left of it after the
request depends besides on the saving of the session, which ends the record of a session
that was cleared and revives the record of one that has entries again. The pages of the
browser add such an entry, a message, after the function returned.
-/

namespace SitBank.Browser

open SitBank.Sessions (EndReason)

/-! ### The functions -/

/-- The reference that a session is shown under, and those that it is found by, one for
each configured key. -/
structure References where
  publicReference : ℕ → String
  candidates : ℕ → List String

structure AuthError where
  message : String
  statusCode : ℕ
  deriving DecidableEq, Repr

namespace State

variable (refs : References) (user : ℕ)

/-- `_active_session_records`, newest first. -/
def activeSessionRecords (st : State) : List Record :=
  (st.pending.filter (isActive user st.clock)).reverse

def expireStaleSessions (st : State) : State := st.endSessions (isStale user st.clock) .expired

def resolveSessionReferenceForUser (reference : String) (st : State) : Option ℕ :=
  ((st.activeSessionRecords user).find? fun r => reference ∈ refs.candidates r.sid).map (·.sid)

def revokeSession (sid : ℕ) (reason : EndReason) : State → State :=
  endSessions (ownedBy (some user) sid) reason

/-- What is left of `terminate_session_for_user`, once the reference is resolved. -/
def terminateResolved (written : Bool) (sid : ℕ) (st : State) : State :=
  let st := (st.revokeSession user sid .terminated).auditEvent written
  if st.session.items.userId = some user ∧ st.session.sid = sid then st.clear else st

def terminateSessionForUser (written : Bool) (reference : String) (st : State) :
    Except AuthError Unit × State :=
  match st.resolveSessionReferenceForUser refs user reference with
  | none =>
      (.error ⟨"Session not found", 404⟩, (st.expireStaleSessions user).auditEvent written)
  | some sid => (.ok (), (st.expireStaleSessions user).terminateResolved user written sid)

/-- The active sessions besides the current one. -/
def others (st : State) (r : Record) : Bool := isActive user st.clock r && r.sid ≠ st.session.sid

def terminateOtherSessionsForUser (written : Bool) (st : State) : ℕ × State :=
  (((st.activeSessionRecords user).filter (others user st)).length,
    ((st.expireStaleSessions user).endSessions (others user st) .revoked).auditEvent written)

end State

/-! ### The requests -/

inductive Route
  | api
  | web
  deriving DecidableEq, Repr

inductive Termination
  | one (reference : String)
  | allOthers

/-- A request for a termination. -/
structure TerminationRequest where
  route : Route
  termination : Termination
  visit : Visit
  /-- The audit event of the termination is committed. -/
  written : Bool

namespace State

variable (cfg : Config) (refs : References) (req : TerminationRequest) (user : ℕ)

/-- The page refuses to end the session that it is shown in. -/
def refusesCurrent (st : State) : Bool :=
  match req.route, req.termination with
  | .web, .one reference => (st.activeSessionRecords user).any fun r =>
      r.sid = st.session.sid && refs.publicReference r.sid = reference
  | _, _ => false

/-- The state after the function, if it returns. -/
def terminated (st : State) : Option State :=
  match req.termination with
  | .one reference =>
      match st.terminateSessionForUser refs user req.written reference with
      | (.ok _, st) => some st
      | (.error _, _) => none
  | .allOthers => some (st.terminateOtherSessionsForUser user req.written).2

/-- The sessions that are to be ended. -/
def targets (st : State) : List ℕ :=
  match req.termination with
  | .one reference => (st.resolveSessionReferenceForUser refs user reference).toList
  | .allOthers => ((st.activeSessionRecords user).filter (others user st)).map (·.sid)

def flash (st : State) : State :=
  st.update fun items => { items with others := "_flashes" :: items.others }

def answer (st : State) : State :=
  match req.route with
  | .api => st
  | .web => st.flash

/-- From the return of the function to the end of the request. -/
def endRequest (st : State) : State :=
  (((st.answer req).wait req.visit.untilSave).saveSession cfg req.visit).finish req.visit

end State

/-- The record of the session, if there is one, is marked as ended. -/
def Revoked (sid : ℕ) (records : List Record) : Prop :=
  ∀ r ∈ records, r.sid = sid → r.ended.isSome = true

/-- Whenever the function is called for the user of the session and returns, its sessions are
revoked in the committed records after the request. -/
def RevocationsKept (cfg : Config) (refs : References) (req : TerminationRequest) (st : State) :
    Prop :=
  ∀ user, st.session.items.userId = some user → st.refusesCurrent refs req user = false →
    ∀ st', st.terminated refs req user = some st' →
      ∀ sid ∈ st.targets refs req user, Revoked sid (st'.endRequest cfg req).records

/-- The revocation of a session outlasts the request: the audit event is written, or the
session was revoked before; or it is the current one and saving it ends it. The pages
revive the current one. -/
def Outlasts (req : TerminationRequest) (st : State) (sid : ℕ) : Prop :=
  (req.written = true ∨ Revoked sid st.records ∨
    sid = st.session.sid ∧ req.route = .api ∧ req.visit.saved = .committed) ∧
  ¬(sid = st.session.sid ∧ req.route = .web ∧ req.visit.saved = .committed)

section Records

variable {st : State} {sid : ℕ}

/-! ### Records -/

theorem isSome_endSessionRecord (reason : EndReason) (r : Record) :
    (State.endSessionRecord reason r).ended.isSome = true := by
  unfold State.endSessionRecord
  split
  · assumption
  · rfl

theorem revoked_endSessions {p : Record → Bool} {reason : EndReason}
    (h : ∀ r ∈ st.pending, r.sid = sid → r.ended.isSome = true ∨ p r = true) :
    Revoked sid (st.endSessions p reason).pending := by
  intro r hr hsid
  obtain ⟨r₀, hr₀, rfl⟩ := List.mem_map.mp hr
  cases hp : p r₀ with
  | true =>
      simp only [if_true]
      exact isSome_endSessionRecord reason r₀
  | false =>
      simp only [hp, Bool.false_eq_true, if_false] at hsid ⊢
      rcases h r₀ hr₀ hsid with hended | hp'
      · exact hended
      · rw [hp] at hp'
        cases hp'

theorem auditEvent_settled (written : Bool) (st : State) :
    (st.auditEvent written).pending = (st.auditEvent written).records := by
  cases written <;> rfl

/-- Writing the record of another session leaves a revocation alone. -/
theorem revoked_save_iff {f : Record → Record} {other : ℕ} (hne : sid ≠ other)
    (hf : ∀ r, (f r).sid = r.sid) (records : List Record) :
    Revoked sid (records.map fun r => if r.sid = other then f r else r) ↔ Revoked sid records := by
  constructor
  · intro h r hr hsid
    have hother : r.sid ≠ other := hsid ▸ hne
    refine h r (List.mem_map.mpr ⟨r, hr, if_neg hother⟩) hsid
  · intro h r hr hsid
    obtain ⟨r₀, hr₀, rfl⟩ := List.mem_map.mp hr
    split at hsid
    · next hother =>
        rw [hf, hother] at hsid
        exact absurd hsid.symm hne
    · next hother =>
        rw [if_neg hother]
        exact h r₀ hr₀ hsid

end Records

/-! ### The end of the request -/

section Save

variable {cfg : Config} {visit : Visit} {st : State} {sid : ℕ}

theorem setCookie_records (cookie : Option ℕ) (st : State) :
    (st.setCookie visit cookie).records = st.records := by
  unfold State.setCookie
  split <;> rfl

theorem logFlag_records (st : State) : (st.logFlag visit).records = st.records := by
  unfold State.logFlag
  split <;> rfl

theorem finish_records (st : State) : (st.finish visit).records = st.records := by
  unfold State.finish
  dsimp only
  split <;> rfl

theorem commitQuietly_records (st : State) : (st.commitQuietly visit).records =
    if visit.saved = .committed then st.pending else st.records := by
  unfold State.commitQuietly
  cases visit.saved <;> rfl

/-- The records that the transaction sees, with one of the session. -/
def withRecord (cfg : Config) (st : State) : List Record :=
  if (st.record st.session.sid).isSome then st.pending
  else st.pending ++ [⟨st.session.sid, none, none, st.clock, st.sessionExpiresAt cfg, none⟩]

theorem exists_withRecord (cfg : Config) (st : State) :
    ∃ r ∈ withRecord cfg st, r.sid = st.session.sid := by
  unfold withRecord
  split
  · next hsome =>
      obtain ⟨r, hr⟩ := Option.isSome_iff_exists.mp hsome
      have hfound := List.find?_some hr
      exact ⟨r, List.mem_of_find?_eq_some hr, of_decide_eq_true hfound⟩
  · exact ⟨_, List.mem_append_right _ (.head _), rfl⟩

theorem revoked_withRecord (hne : sid ≠ st.session.sid) :
    Revoked sid (withRecord cfg st) ↔ Revoked sid st.pending := by
  unfold withRecord
  split
  · rfl
  · constructor
    · exact fun h r hr hsid => h r (List.mem_append_left _ hr) hsid
    · intro h r hr hsid
      rcases List.mem_append.mp hr with hold | hnew
      · exact h r hold hsid
      · rw [List.mem_singleton.mp hnew] at hsid
        exact absurd hsid.symm hne

variable (cfg visit) in
theorem saveSession_records (hitems : st.session.items ≠ .empty) :
    ∃ f : Record → Record, (∀ r, (f r).sid = r.sid ∧ (f r).ended = none) ∧
      (st.saveSession cfg visit).records = if visit.saved = .committed then
        (withRecord cfg st).map fun r => if r.sid = st.session.sid then f r else r
      else st.records := by
  refine ⟨(st.update State.permanent).saveRecord cfg visit, fun r => ⟨rfl, rfl⟩, ?_⟩
  unfold State.saveSession
  rw [if_neg hitems]
  dsimp only
  have hsame : ((st.update State.permanent).record (st.update State.permanent).session.sid).isSome =
      (st.record st.session.sid).isSome := rfl
  rw [setCookie_records, logFlag_records, commitQuietly_records, hsame]
  unfold withRecord
  cases (st.record st.session.sid).isSome <;> split <;> rfl

variable (cfg visit) in
/-- Saving a session that has entries leaves the revocations of the others alone, and takes
back its own. -/
theorem revoked_saveSession (hitems : st.session.items ≠ .empty)
    (hsettled : st.pending = st.records) :
    Revoked sid (st.saveSession cfg visit).records ↔
      Revoked sid st.records ∧ ¬(sid = st.session.sid ∧ visit.saved = .committed) := by
  obtain ⟨f, hf, hrecords⟩ := saveSession_records cfg visit hitems
  rw [hrecords]
  split
  · next hsaved =>
      rcases eq_or_ne sid st.session.sid with hsid | hne
      · refine iff_of_false ?_ fun h => h.2 ⟨hsid, hsaved⟩
        intro h
        obtain ⟨r, hr, hown⟩ := exists_withRecord cfg st
        have hended := h (f r) (List.mem_map.mpr ⟨r, hr, if_pos hown⟩)
          (by rw [(hf r).1, hown, hsid])
        rw [(hf r).2] at hended
        cases hended
      · rw [revoked_save_iff hne fun r => (hf r).1, revoked_withRecord hne, hsettled]
        exact (and_iff_left fun h => hne h.1).symm
  · next hsaved => exact (and_iff_left fun h => hsaved h.2).symm

variable (cfg visit) in
/-- Saving a session that was cleared revokes it. -/
theorem revoked_saveSession_cleared (hitems : st.session.items = .empty)
    (hmodified : st.session.modified = true) :
    Revoked st.session.sid (st.saveSession cfg visit).records ↔
      Revoked st.session.sid st.records ∨ visit.saved = .committed := by
  unfold State.saveSession
  rw [if_pos hitems, if_pos hmodified, setCookie_records, commitQuietly_records]
  split
  · next hsaved =>
      refine iff_of_true (revoked_endSessions fun r _ hsid => .inr ?_) (.inr hsaved)
      exact decide_eq_true hsid
  · next hsaved => exact (or_iff_left hsaved).symm

end Save

section Request

variable {cfg : Config} {refs : References} {req : TerminationRequest} {st st' : State}
  {user sid : ℕ}

/-- What the function leaves, for one of the sessions that it ends. -/
structure Left (req : TerminationRequest) (user sid : ℕ) (st st' : State) : Prop where
  settled : st'.pending = st'.records
  written : req.written = true → Revoked sid st'.records
  lost : req.written = false → st'.records = st.records
  current : st'.session.sid = st.session.sid
  own : sid = st.session.sid → st'.session.items = .empty ∧ st'.session.modified = true
  other : sid ≠ st.session.sid → st'.session.items ≠ .empty

theorem Left.revoked_iff (h : Left req user sid st st') :
    Revoked sid st'.records ↔ req.written = true ∨ Revoked sid st.records := by
  cases hwritten : req.written with
  | true => exact iff_of_true (h.written hwritten) (.inl rfl)
  | false => simp [h.lost hwritten]

theorem endRequest_records (st : State) : (st.endRequest cfg req).records =
    (((st.answer req).wait req.visit.untilSave).saveSession cfg req.visit).records :=
  finish_records _

theorem Left.outlasts_iff (h : Left req user sid st st') :
    Revoked sid (st'.endRequest cfg req).records ↔ Outlasts req st sid := by
  rw [endRequest_records]
  unfold Outlasts State.answer
  cases hroute : req.route with
  -- the flash message makes the session worth saving, so its row is written again
  | web =>
      have hitems : (st'.flash.wait req.visit.untilSave).session.items ≠ .empty := by
        intro hempty
        cases congrArg Items.others hempty
      have hsaved : Revoked sid
          ((st'.flash.wait req.visit.untilSave).saveSession cfg req.visit).records ↔ _ :=
        revoked_saveSession cfg req.visit hitems h.settled
      have hsame : (st'.flash.wait req.visit.untilSave).records = st'.records := rfl
      have hcurrent : (st'.flash.wait req.visit.untilSave).session.sid = st.session.sid := h.current
      rw [hsaved, hsame, hcurrent, h.revoked_iff]
      simp
  -- an empty session is deleted, another one saved
  | api =>
      rcases eq_or_ne sid st.session.sid with hsid | hne
      · obtain ⟨hitems, hmodified⟩ := h.own hsid
        have hcleared : Revoked (st'.wait req.visit.untilSave).session.sid
            ((st'.wait req.visit.untilSave).saveSession cfg req.visit).records ↔ _ :=
          revoked_saveSession_cleared cfg req.visit hitems hmodified
        have hcurrent : (st'.wait req.visit.untilSave).session.sid = sid :=
          h.current.trans hsid.symm
        rw [hcurrent] at hcleared
        have hsame : (st'.wait req.visit.untilSave).records = st'.records := rfl
        rw [hcleared, hsame, h.revoked_iff]
        simp [hsid, or_assoc]
      · have hsaved : Revoked sid
            ((st'.wait req.visit.untilSave).saveSession cfg req.visit).records ↔ _ :=
          revoked_saveSession cfg req.visit (h.other hne) h.settled
        have hsame : (st'.wait req.visit.untilSave).records = st'.records := rfl
        have hcurrent : (st'.wait req.visit.untilSave).session.sid = st.session.sid := h.current
        rw [hsaved, hsame, hcurrent, h.revoked_iff]
        simp [hne]

/-! ### The functions' part -/

theorem active_of_resolved {reference : String}
    (h : st.resolveSessionReferenceForUser refs user reference = some sid) :
    ∃ t ∈ st.pending, State.isActive user st.clock t = true ∧ t.sid = sid := by
  unfold State.resolveSessionReferenceForUser at h
  obtain ⟨t, hfound, rfl⟩ := Option.map_eq_some_iff.mp h
  have hmem := List.mem_reverse.mp (List.mem_of_find?_eq_some hfound)
  obtain ⟨hpending, hactive⟩ := List.mem_filter.mp hmem
  exact ⟨t, hpending, hactive, rfl⟩

/-- What the records of the session are once stale ones have been expired. -/
theorem expired_or_same {t : Record} (hunique : (st.pending.map Record.sid).Nodup)
    (ht : t ∈ st.pending) {r : Record} (hr : r ∈ (st.expireStaleSessions user).pending)
    (hsid : r.sid = t.sid) : r.ended.isSome = true ∨ r = t := by
  obtain ⟨r₀, hr₀, rfl⟩ := List.mem_map.mp hr
  split at hsid
  · next hstale =>
      rw [if_pos hstale]
      exact .inl (isSome_endSessionRecord _ r₀)
  · next hstale =>
      rw [if_neg hstale]
      exact .inr (List.inj_on_of_nodup_map hunique hr₀ ht hsid)

theorem revoked_terminated (hunique : (st.pending.map Record.sid).Nodup) {t : Record}
    (ht : t ∈ st.pending) {p : Record → Bool} (hp : p t = true) (reason : EndReason) :
    Revoked t.sid ((st.expireStaleSessions user).endSessions p reason).pending := by
  refine revoked_endSessions fun r hr hsid => ?_
  rcases expired_or_same hunique ht hr hsid with hended | rfl
  · exact .inl hended
  · exact .inr hp

/-- The audit event settles the fate of a session that was ended before it. -/
theorem left_auditEvent {st₁ : State} (hrevoked : Revoked sid st₁.pending)
    (hrecords : st₁.records = st.records) (hsession : st₁.session = st.session)
    (hitems : st.session.items ≠ .empty) (hne : sid ≠ st.session.sid) :
    Left req user sid st (st₁.auditEvent req.written) := by
  have hkept : (st₁.auditEvent req.written).session = st.session := by
    rw [← hsession]
    cases req.written <;> rfl
  refine ⟨auditEvent_settled _ _, fun hwritten => ?_, fun hwritten => ?_, ?_, ?_, ?_⟩
  · rw [hwritten]
    exact hrevoked
  · rw [hwritten]
    exact hrecords
  · rw [hkept]
  · exact fun hsid => absurd hsid hne
  · rw [hkept]
    exact fun _ => hitems

theorem left_clear {st₁ : State} (hrevoked : Revoked sid st₁.pending)
    (hrecords : st₁.records = st.records) (hsid : st₁.session.sid = st.session.sid)
    (hown : sid = st.session.sid) : Left req user sid st (st₁.auditEvent req.written).clear := by
  have hkept : (st₁.auditEvent req.written).session = st₁.session := by
    cases req.written <;> rfl
  refine ⟨auditEvent_settled _ _, fun hwritten => ?_, fun hwritten => ?_, ?_, ?_, ?_⟩
  · rw [hwritten]
    exact hrevoked
  · rw [hwritten]
    exact hrecords
  · show (st₁.auditEvent req.written).session.sid = _
    rw [hkept, hsid]
  · exact fun _ => ⟨rfl, rfl⟩
  · exact fun hne => absurd hown hne

theorem items_ne_empty (huser : st.session.items.userId = some user) :
    st.session.items ≠ .empty := by
  intro hempty
  rw [hempty] at huser
  cases huser

theorem left_one (hunique : (st.pending.map Record.sid).Nodup)
    (huser : st.session.items.userId = some user) {reference : String}
    (hresolved : st.resolveSessionReferenceForUser refs user reference = some sid) :
    Left req user sid st
      ((st.expireStaleSessions user).terminateResolved user req.written sid) := by
  obtain ⟨t, ht, hactive, rfl⟩ := active_of_resolved hresolved
  have howned : State.ownedBy (some user) t.sid t = true := by
    unfold State.isActive at hactive
    simp only [Bool.and_eq_true, decide_eq_true_eq] at hactive
    simp [State.ownedBy, hactive.1.1.1]
  have hrevoked : Revoked t.sid
      ((st.expireStaleSessions user).revokeSession user t.sid .terminated).pending :=
    revoked_terminated hunique ht howned .terminated
  have hsession : (((st.expireStaleSessions user).revokeSession user t.sid .terminated).auditEvent
      req.written).session = st.session := by
    cases req.written <;> rfl
  unfold State.terminateResolved
  dsimp only
  rw [hsession]
  split
  · next hown => exact left_clear hrevoked rfl rfl hown.2.symm
  · next hother =>
      refine left_auditEvent hrevoked rfl rfl (items_ne_empty huser) fun hsid => ?_
      exact hother ⟨huser, hsid.symm⟩

theorem left_others (hunique : (st.pending.map Record.sid).Nodup)
    (huser : st.session.items.userId = some user) {t : Record} (ht : t ∈ st.pending)
    (hother : State.others user st t = true) :
    Left req user t.sid st (st.terminateOtherSessionsForUser user req.written).2 := by
  have hrevoked : Revoked t.sid
      ((st.expireStaleSessions user).endSessions (State.others user st) .revoked).pending :=
    revoked_terminated hunique ht hother .revoked
  unfold State.others at hother
  simp only [Bool.and_eq_true, decide_eq_true_eq] at hother
  exact left_auditEvent hrevoked rfl rfl (items_ne_empty huser) hother.2

theorem left_of_terminated (hunique : (st.pending.map Record.sid).Nodup)
    (huser : st.session.items.userId = some user) (hsid : sid ∈ st.targets refs req user)
    (hreturned : st.terminated refs req user = some st') : Left req user sid st st' := by
  unfold State.targets at hsid
  unfold State.terminated at hreturned
  cases htermination : req.termination with
  | one reference =>
      rw [htermination] at hsid hreturned
      dsimp only at hsid hreturned
      have hresolved := Option.mem_toList.mp hsid
      unfold State.terminateSessionForUser at hreturned
      rw [hresolved] at hreturned
      cases hreturned
      exact left_one hunique huser hresolved
  | allOthers =>
      rw [htermination] at hsid hreturned
      dsimp only at hsid hreturned
      cases hreturned
      obtain ⟨t, ht, rfl⟩ := List.mem_map.mp hsid
      obtain ⟨hactive, hother⟩ := List.mem_filter.mp ht
      obtain ⟨hpending, -⟩ := List.mem_filter.mp (List.mem_reverse.mp hactive)
      exact left_others hunique huser hpending hother

theorem terminated_of_target (hsid : sid ∈ st.targets refs req user) :
    ∃ st', st.terminated refs req user = some st' := by
  unfold State.targets at hsid
  unfold State.terminated
  cases htermination : req.termination with
  | one reference =>
      rw [htermination] at hsid
      have hresolved := Option.mem_toList.mp hsid
      unfold State.terminateSessionForUser
      dsimp only
      rw [hresolved]
      exact ⟨_, rfl⟩
  | allOthers => exact ⟨_, rfl⟩

variable (cfg refs req) in
/-- The revocations are kept exactly if each of them outlasts its request. -/
theorem revocationsKept_iff (hunique : (st.pending.map Record.sid).Nodup) :
    RevocationsKept cfg refs req st ↔
      ∀ user, st.session.items.userId = some user → st.refusesCurrent refs req user = false →
        ∀ sid ∈ st.targets refs req user, Outlasts req st sid := by
  unfold RevocationsKept
  refine forall_congr' fun user => forall_congr' fun huser => forall_congr' fun _ => ?_
  constructor
  · intro h sid hsid
    obtain ⟨st', hst'⟩ := terminated_of_target hsid
    exact (left_of_terminated hunique huser hsid hst').outlasts_iff.mp (h st' hst' sid hsid)
  · intro h st' hst' sid hsid
    exact (left_of_terminated hunique huser hsid hst').outlasts_iff.mpr (h sid hsid)

end Request

/-! ### Two sessions of a customer -/

def sampleReferences : References where
  publicReference sid := "current:" ++ sid.repr
  candidates sid := ["current:" ++ sid.repr, "former:" ++ sid.repr]

/-- Customer 7 is logged in with two browsers; the request comes from the first. -/
def twoSessions : State :=
  let items := { Items.empty with userId := some 7 }
  let record (sid : ℕ) : Record :=
    ⟨sid, some 7, some items, noSessions.clock, noSessions.clock + 300000000, none⟩
  { noSessions with
    records := [record 1, record 2]
    pending := [record 1, record 2]
    session := ⟨1, items, false⟩
    nextSid := 3
    cookie := some 1 }

def endOthers (written : Bool) : TerminationRequest := ⟨.api, .allOthers, plainVisit, written⟩

theorem endOthers_kept : (twoSessions.pending.map Record.sid).Nodup ∧
    RevocationsKept customerConfig sampleReferences (endOthers true) twoSessions :=
  ⟨by decide, (revocationsKept_iff customerConfig sampleReferences (endOthers true)
    (by decide)).mpr fun _ _ _ _ _ => ⟨.inl rfl, nofun⟩⟩

/-- The audit event of the request fails: the function returns, and the session is left. -/
theorem endOthers_undone :
    ¬RevocationsKept customerConfig sampleReferences (endOthers false) twoSessions := by
  intro h
  have hrevoked := h 7 rfl rfl _ rfl 2 (by decide)
  unfold Revoked at hrevoked
  revert hrevoked
  decide +kernel

end SitBank.Browser
