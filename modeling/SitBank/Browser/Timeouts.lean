import Mathlib.Logic.Relation
import SitBank.Browser.Invariants

/-!
The two timeouts of a session, over all of its requests.

The times of the payload are tied to the history: the creation time of an
authenticated session is that of the full authentication it goes back to, over
every rotation of its id, and its last activity is not later than the end of the
last request that counts as activity. Both are second counts, so a check in
seconds is good to one second.
-/

namespace SitBank.Browser

open SitBank.Sessions (EndReason Severity epochSeconds)

/-- The full authentication that a session goes back to. -/
def origin (sid : ℕ) : List Event → Option ℤ
  | [] => none
  | .authenticated new instant :: older => if new = sid then some instant else origin sid older
  | .rotated old new :: older => if new = sid then origin old older else origin sid older
  | .request _ :: older => origin sid older
  | .served _ _ :: older => origin sid older
  | .stable _ :: older => origin sid older
  | .flagged _ :: older => origin sid older

/-- The end of the last request that counts as activity. -/
def lastRequest : List Event → Option ℤ
  | [] => none
  | .request instant :: _ => some instant
  | .authenticated _ _ :: older => lastRequest older
  | .rotated _ _ :: older => lastRequest older
  | .served _ _ :: older => lastRequest older
  | .stable _ :: older => lastRequest older
  | .flagged _ :: older => lastRequest older

/-- Served within the two timeouts, after these events. -/
def InTime (cfg : Config) (older : List Event) (sid : ℕ) (t : ℤ) : Prop :=
  (∃ s, lastRequest older = some s ∧ t - s ≤ (cfg.sessionInactivitySeconds + 1) * 1000000) ∧
    ∃ a, origin sid older = some a ∧ t - a ≤ (cfg.sessionAbsoluteLifetimeSeconds + 1) * 1000000

/-- Every request of the history was served in time. -/
def Timely (cfg : Config) : List Event → Prop
  | [] => True
  | e :: older => (∀ sid t, e = .served sid t → InTime cfg older sid t) ∧ Timely cfg older

/-- What the payload of an authenticated session says about its times. -/
def Tracked (limit : Option ℤ) : Trait := fun history sid items =>
  items.userId.isSome → (∃ a, origin sid history = some a ∧
    items.authCreatedAt = some (epochSeconds a) ∧ 0 < epochSeconds a) ∧
    ∃ v s, items.lastActivityAt = some v ∧ 0 < v ∧ limit = some s ∧ v ≤ epochSeconds s

/-- The history so far; `last` is the end of the last request, `limit` what the
payloads reach up to. -/
structure Clocked (cfg : Config) (last limit : Option ℤ) (st : State) : Prop where
  clock : 0 < st.now
  last : lastRequest st.history = last
  bounded : ∀ s, limit = some s → s ≤ st.clock
  timely : Timely cfg st.history

/-- The invariant within a request. -/
structure Sound (cfg : Config) (last limit : Option ℤ) (st : State) : Prop where
  carried : Carried (Tracked limit) st
  clocked : Clocked cfg last limit st

/-! ### Times -/

theorem epochSeconds_mono {a b : ℤ} (h : a ≤ b) : epochSeconds a ≤ epochSeconds b := by
  unfold epochSeconds
  omega

/-- A bound in seconds is good to one second. -/
theorem within_of_epochSeconds {s t n : ℤ} (h : epochSeconds t - epochSeconds s ≤ n) :
    t - s ≤ (n + 1) * 1000000 := by
  unfold epochSeconds at h
  omega

theorem Timely.served {cfg : Config} {newer older : List Event} {sid : ℕ} {t : ℤ}
    (h : Timely cfg (newer ++ .served sid t :: older)) : InTime cfg older sid t := by
  induction newer with
  | nil => exact h.1 sid t rfl
  | cons e newer ih => exact ih h.2

section Tracking

variable {limit : Option ℤ} {history : List Event} {sid : ℕ} {items items' : Items}

theorem Tracked.raise {s' : ℤ} (h : Tracked limit history sid items)
    (hle : ∀ s, limit = some s → s ≤ s') : Tracked (some s') history sid items := by
  intro huser
  obtain ⟨horigin, v, s, hlast, hv, hlimit, hle'⟩ := h huser
  exact ⟨horigin, v, s', hlast, hv, rfl, hle'.trans (epochSeconds_mono (hle s hlimit))⟩

/-- An event that is not about this session changes nothing of it. -/
theorem Tracked.log {e : Event} (h : Tracked limit history sid items)
    (he : origin sid (e :: history) = origin sid history) :
    Tracked limit (e :: history) sid items := by
  unfold Tracked
  rw [he]
  exact h

theorem origin_rotated {old new : ℕ} (hne : sid ≠ new) :
    origin sid (.rotated old new :: history) = origin sid history := by
  show (if new = sid then _ else _) = _
  rw [if_neg hne.symm]

theorem tracked_personal (limit : Option ℤ) : (Tracked limit).Personal where
  signedOut history sid items hnone huser := by
    rw [hnone] at huser
    cases huser
  rotated history old new sid items hne h := h.log (origin_rotated hne)

/-- The entries that the timeouts read. -/
theorem Tracked.congr (h : Tracked limit history sid items) (huser : items'.userId = items.userId)
    (hcreated : items'.authCreatedAt = items.authCreatedAt)
    (hactive : items'.lastActivityAt = items.lastActivityAt) :
    Tracked limit history sid items' := by
  unfold Tracked
  rw [huser, hcreated, hactive]
  exact h

/-- A write of the last activity. -/
theorem Tracked.touch {st : State} (h : Tracked limit history sid items) (hnow : 0 < st.now) :
    Tracked (some st.clock) history sid { items with lastActivityAt := some st.now } :=
  fun huser => ⟨(h huser).1, st.now, st.clock, rfl, hnow, rfl, le_rfl⟩

/-- The risk checks write none of the times. -/
theorem Tracked.storeRisk (h : Tracked limit history sid items) (cfg : Config) (visit : Visit)
    (clearReauth : Bool) (now : ℤ) :
    Tracked limit history sid (storeCurrentSessionRiskContext cfg visit clearReauth now items) :=
  h.congr rfl rfl rfl

theorem Tracked.touchRisk (h : Tracked limit history sid items) (cfg : Config) (visit : Visit)
    (now : ℤ) : Tracked limit history sid (touchSessionRiskContext cfg visit now items) := by
  unfold touchSessionRiskContext
  split
  · exact h.storeRisk cfg visit false now
  · split
    · exact h.storeRisk cfg visit false now
    · exact h.congr rfl rfl rfl

/-- A tracked session has its creation time. -/
theorem Tracked.withAuthCreatedAt (h : Tracked limit history sid items) (now : ℤ) :
    withAuthCreatedAt now items = items := by
  unfold Browser.withAuthCreatedAt
  split
  · next hmissing =>
      obtain ⟨huser, hnone⟩ := Bool.and_eq_true_iff.mp hmissing
      obtain ⟨⟨a, -, hcreated, -⟩, -⟩ := h huser
      rw [hcreated] at hnone
      cases hnone
  · rfl

end Tracking

/-! ### The hook -/

section Steps

variable {cfg : Config} {last limit : Option ℤ} {st : State}

theorem Clocked.quiet {st' : State} (h : Clocked cfg last limit st) (hquiet : Quiet st st') :
    Clocked cfg last limit st' where
  clock := by
    show 0 < epochSeconds st'.clock
    rw [hquiet.clock]
    exact h.clock
  last := hquiet.history (P := fun events => lastRequest events = last) (fun _ _ _ h => h) h.last
  bounded := by
    rw [hquiet.clock]
    exact h.bounded
  timely := hquiet.history (P := Timely cfg) (fun _ _ _ h => ⟨fun _ _ he => (nomatch he), h⟩)
    h.timely

theorem Clocked.wait (h : Clocked cfg last limit st) (microseconds : ℕ) :
    Clocked cfg last limit (st.wait microseconds) where
  clock := h.clock.trans_le (epochSeconds_mono (by show st.clock ≤ st.clock + _; omega))
  last := h.last
  bounded s hs := (h.bounded s hs).trans (by show st.clock ≤ st.clock + _; omega)
  timely := h.timely

theorem Clocked.raise (h : Clocked cfg last limit st) : Clocked cfg last (some st.clock) st where
  clock := h.clock
  last := h.last
  bounded s hs := by
    cases hs
    exact le_rfl
  timely := h.timely

theorem Sound.raise (h : Sound cfg last limit st) : Sound cfg last (some st.clock) st where
  carried := h.carried.mono fun _ _ ht => ht.raise h.clocked.bounded
  clocked := h.clocked.raise

/-- How far activity is known after the hook. -/
def hookLimit (visit : Visit) (last : Option ℤ) (st : State) : Option ℤ :=
  if visit.activityExempt then last else some st.clock

theorem Sound.toHook (h : Sound cfg last last st) (visit : Visit) :
    Sound cfg last (hookLimit visit last st) st := by
  unfold hookLimit
  split
  · exact h
  · exact h.raise

theorem Sound.revokeCurrentSession (h : Sound cfg last limit st) (reason : EndReason) :
    Sound cfg last limit (st.revokeCurrentSession reason) where
  carried := h.carried.revokeCurrentSession (tracked_personal limit) reason
  clocked := h.clocked.quiet (.same rfl rfl le_rfl)

theorem Sound.auditEvent (h : Sound cfg last limit st) (written : Bool) :
    Sound cfg last limit (st.auditEvent written) where
  carried := h.carried.auditEvent written
  clocked := h.clocked.quiet (.auditEvent written st)

theorem Sound.update (h : Sound cfg last limit st) {f : Items → Items}
    (hf : Tracked limit st.history st.session.sid (f st.session.items)) :
    Sound cfg last limit (st.update f) where
  carried := h.carried.update hf
  clocked := h.clocked.quiet (.update f st)

theorem Sound.clear (h : Sound cfg last limit st) : Sound cfg last limit st.clear where
  carried := h.carried.clear (tracked_personal limit)
  clocked := h.clocked.quiet (.same rfl rfl le_rfl)

theorem Sound.enforceAuthenticatedSessionContext (h : Sound cfg last limit st) (visit : Visit) :
    Sound cfg last limit (st.enforceAuthenticatedSessionContext cfg visit).1 := by
  refine ⟨?_, h.clocked.quiet (.enforceAuthenticatedSessionContext cfg visit st)⟩
  have hcarried := h.carried
  have hevent := h.carried.auditEvent visit.auditWritten
  unfold State.enforceAuthenticatedSessionContext
  split
  · exact hcarried
  split
  · exact hcarried.update (hcarried.current.touchRisk cfg visit _)
  · exact hevent.update (hevent.current.storeRisk cfg visit true _)
  · dsimp only
    split
    · refine hcarried.update (Tracked.touchRisk ?_ cfg visit _)
      exact hcarried.current.congr rfl rfl rfl
    · refine hevent.update (Tracked.touchRisk ?_ cfg visit _)
      exact hevent.current.congr rfl rfl rfl
  · exact hevent.revokeCurrentSession (tracked_personal limit) .riskChange

/-- A session that goes on keeps its id and its user. -/
structure Same (st st' : State) : Prop where
  clock : st'.clock = st.clock
  history : st'.history = st.history
  sid : st'.session.sid = st.session.sid
  userId : st'.session.items.userId = st.session.items.userId

theorem touchRisk_userId (visit : Visit) (now : ℤ) (items : Items) :
    (touchSessionRiskContext cfg visit now items).userId = items.userId := by
  unfold touchSessionRiskContext
  split
  · rfl
  · split <;> rfl

theorem auditEvent_same (written : Bool) (st : State) : Same st (st.auditEvent written) := by
  unfold State.auditEvent
  split <;> exact ⟨rfl, rfl, rfl, rfl⟩

theorem same_enforceAuthenticatedSessionContext {visit : Visit} {st' : State}
    (h : st.enforceAuthenticatedSessionContext cfg visit = (st', false)) : Same st st' := by
  have hevent := auditEvent_same visit.auditWritten st
  unfold State.enforceAuthenticatedSessionContext at h
  split at h
  · cases h
    exact ⟨rfl, rfl, rfl, rfl⟩
  split at h
  · cases h
    exact ⟨rfl, rfl, rfl, touchRisk_userId _ _ _⟩
  · cases h
    exact ⟨hevent.clock, hevent.history, hevent.sid, hevent.userId⟩
  · dsimp only at h
    split at h
    · cases h
      exact ⟨rfl, rfl, rfl, touchRisk_userId _ _ _⟩
    · cases h
      exact ⟨hevent.clock, hevent.history, hevent.sid,
        (touchRisk_userId _ _ _).trans hevent.userId⟩
  · cases h

/-- Not expired by either timeout, so in time by the history. -/
theorem inTime_of_checks (h : Sound cfg last last st) (huser : st.session.items.userId.isSome)
    (hlifetime : lifetimeExpired cfg st.session.items st.now = false)
    (hidle : ¬ cfg.sessionInactivitySeconds < idleSeconds st.session.items st.now) :
    InTime cfg st.history st.session.sid st.clock := by
  obtain ⟨⟨a, horigin, hcreated, ha⟩, v, s, hactive, hv, hlimit, hle⟩ := h.carried.current huser
  have hnow : st.now = epochSeconds st.clock := rfl
  refine ⟨⟨s, h.clocked.last.trans hlimit, within_of_epochSeconds ?_⟩, a, horigin,
    within_of_epochSeconds ?_⟩
  · unfold idleSeconds at hidle
    rw [hactive] at hidle
    simp only [hv.ne', if_false] at hidle
    omega
  · unfold lifetimeExpired at hlifetime
    rw [huser, hcreated] at hlifetime
    simp only [Bool.true_and, Bool.or_eq_false_iff, decide_eq_false_iff_not] at hlifetime
    omega

theorem touchSession_spec (h : Sound cfg last last st) (visit : Visit) {st' : State}
    {answered : Bool}
    (hst' : st.touchSession cfg visit = (st', answered)) :
    Sound cfg last (hookLimit visit last st') st' ∧ (answered = false → Same st st') := by
  have hcontext := h.enforceAuthenticatedSessionContext visit
  unfold State.touchSession at hst'
  split at hst'
  · next st₁ heq =>
      rw [heq] at hcontext
      cases hst'
      exact ⟨hcontext.toHook visit, fun hfalse => nomatch hfalse⟩
  · next st₁ heq =>
      rw [heq] at hcontext
      have hsame := same_enforceAuthenticatedSessionContext heq
      split at hst'
      · cases hst'
        exact ⟨hcontext.toHook visit, fun _ => hsame⟩
      · next hexempt =>
          cases hst'
          have htouched : Sound cfg last (some st₁.clock)
              (st₁.update fun items => { items with lastActivityAt := some st₁.now }) :=
            hcontext.raise.update (hcontext.carried.current.touch hcontext.clocked.clock)
          have hquiet := Quiet.updateSessionActivity cfg
            (st₁.update fun items => { items with lastActivityAt := some st₁.now })
          refine ⟨?_, fun _ => ?_⟩
          · unfold hookLimit
            rw [if_neg hexempt, hquiet.clock]
            exact ⟨htouched.carried.updateSessionActivity cfg, htouched.clocked.quiet hquiet⟩
          · unfold State.updateSessionActivity
            split <;> exact ⟨hsame.clock, hsame.history, hsame.sid, hsame.userId⟩

/-- A request that the hook lets through is in time. -/
theorem enforceSessionLifetime_spec (h : Sound cfg last last st) (visit : Visit) {st' : State}
    {answered : Bool} (hst' : st.enforceSessionLifetime cfg visit = (st', answered)) :
    Sound cfg last (hookLimit visit last st') st' ∧
      (answered = false → st'.session.items.userId.isSome →
        InTime cfg st'.history st'.session.sid st'.clock) := by
  unfold State.enforceSessionLifetime at hst'
  dsimp only at hst'
  split at hst'
  -- no user, nothing to expire
  · next hprincipal =>
      cases hst'
      refine ⟨h.toHook visit, fun _ huser => ?_⟩
      unfold Items.principal at hprincipal
      cases hid : st.session.items.userId with
      | none =>
          rw [hid] at huser
          cases huser
      | some id =>
          rw [hid] at hprincipal
          cases hprincipal
  split at hst'
  · cases hst'
    have hpending : Sound cfg last last (st.pendingMfaExpiryResponse visit) :=
      ⟨h.carried.pendingMfaExpiryResponse (tracked_personal last) visit,
        h.clocked.quiet (.pendingMfaExpiryResponse visit st)⟩
    exact ⟨hpending.toHook visit, fun hfalse => nomatch hfalse⟩
  split at hst'
  · cases hst'
    exact ⟨((h.auditEvent visit.auditWritten).revokeCurrentSession .absoluteLifetime).toHook visit,
      fun hfalse => nomatch hfalse⟩
  · next hlifetime =>
      -- the login time is there already, so the default is not written
      have hcreated : withAuthCreatedAt st.now st.session.items = st.session.items :=
        h.carried.current.withAuthCreatedAt st.now
      have hupdated : Sound cfg last last (st.update (withAuthCreatedAt st.now)) :=
        h.update (by rw [hcreated]; exact h.carried.current)
      split at hst'
      · cases hst'
        exact ⟨(hupdated.revokeCurrentSession .expired).toHook visit, fun hfalse => nomatch hfalse⟩
      · next hidle =>
          obtain ⟨hsound, hframe⟩ := touchSession_spec hupdated visit hst'
          refine ⟨hsound, fun hfalse huser => ?_⟩
          have hsame := hframe hfalse
          rw [hsame.sid, hsame.history, hsame.clock]
          rw [hsame.userId] at huser
          refine inTime_of_checks hupdated huser ?_ hidle
          show lifetimeExpired cfg (withAuthCreatedAt st.now st.session.items) st.now = false
          rw [hcreated]
          exact Bool.eq_false_iff.mpr hlifetime

theorem enforceSessionActivity_spec (h : Sound cfg last last st) (visit : Visit) {st' : State}
    {answered : Bool} (hst' : st.enforceSessionActivity cfg visit = (st', answered)) :
    Sound cfg last (hookLimit visit last st') st' ∧
      (answered = false → st'.session.items.userId.isSome →
        InTime cfg st'.history st'.session.sid st'.clock) := by
  unfold State.enforceSessionActivity at hst'
  split at hst'
  · cases hst'
    exact ⟨h.clear.toHook visit, fun _ huser => nomatch huser⟩
  · exact enforceSessionLifetime_spec h visit hst'

/-! ### Handlers -/

/-- The new id goes back to the same authentication. -/
theorem Sound.rotateSessionId (h : Sound cfg last limit st) :
    Sound cfg last limit st.rotateSessionId := by
  refine ⟨?_, h.clocked.quiet (.rotateSessionId st)⟩
  unfold State.rotateSessionId
  split
  · exact h.carried
  · refine Carried.regenerate (tracked_personal limit) h.carried.toStored fun huser => ?_
    obtain ⟨⟨a, ha, hcreated⟩, hactive⟩ := h.carried.current huser
    refine ⟨⟨a, ?_, hcreated⟩, hactive⟩
    show (if st.nextSid = st.nextSid then origin st.session.sid st.history else _) = some a
    rw [if_pos rfl, ha]

/-- A full authentication starts both times. -/
theorem Sound.authenticate (h : Sound cfg last (some st.clock) st) (items : Items)
    (hcreated : items.authCreatedAt = some st.now) (hactive : items.lastActivityAt = some st.now) :
    Sound cfg last (some st.clock) (((st.update fun _ => items).regenerate).log
      (.authenticated st.nextSid st.clock)) := by
  have hupdated : Stored (Tracked (some st.clock)) (st.update fun _ => items) :=
    ⟨h.carried.numbered, h.carried.payload⟩
  have hended := hupdated.endSessions (fun r => r.sid = st.session.sid) .rotated
  have hrotated : Stored (Tracked (some st.clock)) (st.update fun _ => items).regenerate :=
    hupdated.regenerate fun sid items hlt ht => ht.log (origin_rotated (Nat.ne_of_lt hlt))
  refine ⟨⟨hrotated.log fun r hr items ht => ht.log ?_, Nat.lt_succ_self _, fun _ =>
    ⟨⟨st.clock, ?_, hcreated, h.clocked.clock⟩, st.now, st.clock, hactive, h.clocked.clock, rfl,
      le_rfl⟩⟩, ⟨h.clocked.clock, h.clocked.last, h.clocked.bounded, ?_⟩⟩
  · have hlt : r.sid < st.nextSid := hended.numbered r hr
    show (if st.nextSid = r.sid then _ else _) = _
    rw [if_neg hlt.ne']
  · show (if st.nextSid = st.nextSid then some st.clock else _) = _
    rw [if_pos rfl]
  · exact ⟨fun _ _ he => (nomatch he), fun _ _ he => (nomatch he), h.clocked.timely⟩

theorem Sound.refresh (h : Sound cfg last limit st) (visit : Visit) (now : ℤ) :
    Sound cfg last limit (st.update (refreshSessionRiskFingerprint cfg visit now)) :=
  h.update (h.carried.current.storeRisk cfg visit true now)

theorem Sound.registerSessionMetadata (h : Sound cfg last limit st) (user : ℕ) :
    Sound cfg last limit (st.registerSessionMetadata cfg user) where
  carried := h.carried.registerSessionMetadata cfg user
  clocked := h.clocked.quiet (.registerSessionMetadata cfg user st)

theorem Sound.establishAuthenticatedSession (h : Sound cfg last (some st.clock) st) (visit : Visit)
    (user : ℕ) (mfaVerified : Bool) (authContext : String) :
    Sound cfg last (some st.clock)
      (st.establishAuthenticatedSession cfg visit user mfaVerified authContext) := by
  have hauth := h.authenticate { Items.empty with
    userId := some user
    authContext := authContext
    authCreatedAt := some st.now
    lastActivityAt := some st.now
    others := ["_permanent", "login_at"] ++
      if mfaVerified then ["mfa_verified_at", "fresh_mfa_verified_at"] else [] } rfl rfl
  have hregistered := (hauth.refresh visit st.now).registerSessionMetadata user
  exact ⟨hregistered.carried.enforceActiveSessionCap user,
    hregistered.clocked.quiet (.enforceActiveSessionCap user _)⟩

theorem Sound.markFreshMfa (h : Sound cfg last (some st.clock) st) :
    Sound cfg last (some st.clock) st.markFreshMfa :=
  h.update ((h.carried.current.touch h.clocked.clock).congr rfl rfl rfl)

/-- A session without a user, under a new id. -/
theorem Sound.beginSignedOut (h : Sound cfg last limit st) {items : Items}
    (hnone : items.userId = none) :
    Sound cfg last limit (st.update fun _ => items).rotateSessionId :=
  Sound.rotateSessionId (h.update ((tracked_personal limit).signedOut _ _ _ hnone))

theorem Sound.log (h : Sound cfg last limit st) {e : Event}
    (horigin : ∀ sid, origin sid (e :: st.history) = origin sid st.history)
    (hlast : lastRequest (e :: st.history) = lastRequest st.history)
    (hserved : ∀ sid t, e = .served sid t → InTime cfg st.history sid t) :
    Sound cfg last limit (st.log e) where
  carried := h.carried.log fun sid _ ht => ht.log (horigin sid)
  clocked := ⟨h.clocked.clock, hlast.trans h.clocked.last, h.clocked.bounded,
    hserved, h.clocked.timely⟩

theorem Sound.requireStable (h : Sound cfg last limit st) (visit : Visit) (auditWritten : Bool) :
    Sound cfg last limit (st.requireStableSessionForSensitiveAction cfg visit auditWritten) := by
  have hpassed : ∀ st₁ : State, Sound cfg last limit st₁ → Sound cfg last limit
      (if st.session.items.userId.isSome then st₁.log (.stable st₁.session.sid) else st₁) := by
    intro st₁ h₁
    split
    · exact h₁.log (fun _ => rfl) rfl fun _ _ he => (nomatch he)
    · exact h₁
  unfold State.requireStableSessionForSensitiveAction
  dsimp only
  split
  · exact h
  split
  · exact hpassed _ (h.refresh visit _)
  split
  · exact hpassed _ (h.refresh visit _)
  split
  · exact hpassed _ h
  split
  · exact hpassed _ (h.refresh visit _)
  · refine Sound.auditEvent (h.update ?_) auditWritten
    exact h.carried.current.congr rfl rfl rfl

/-- One step of a handler. -/
theorem Sound.action (h : Sound cfg last (some st.clock) st) (visit : Visit) (action : Action) :
    Sound cfg last (some (action.run cfg visit st).clock) (action.run cfg visit st) := by
  cases action with
  | wait microseconds =>
      exact Sound.raise ⟨h.carried.wait microseconds, h.clocked.wait microseconds⟩
  | auditEvent written => exact (h.auditEvent written).raise
  | commit => exact ⟨h.carried.commit, h.clocked.quiet (.same rfl rfl le_rfl)⟩
  | rollback => exact ⟨h.carried.rollback, h.clocked.quiet (.same rfl rfl le_rfl)⟩
  | setOthers others =>
      refine Sound.update (f := fun items => { items with others := others }) h ?_
      exact h.carried.current.congr rfl rfl rfl
  | clear => exact h.clear
  | endSessions p reason =>
      exact ⟨h.carried.endSessions p reason, h.clocked.quiet (.same rfl rfl le_rfl)⟩
  | revokeCurrentSession reason => exact h.revokeCurrentSession reason
  | beginPasswordAuthenticatedSession user => exact (h.beginSignedOut rfl).raise
  | beginResetSession => exact (h.beginSignedOut rfl).raise
  | establishAuthenticatedSession user mfaVerified authContext =>
      exact (h.establishAuthenticatedSession visit user mfaVerified authContext).raise
  | markFreshMfa => exact h.markFreshMfa
  | rotateAuthenticatedSessionAfterMfa user =>
      exact ((h.markFreshMfa.rotateSessionId.refresh visit _).registerSessionMetadata user).raise
  | requireStableSessionForSensitiveAction auditWritten =>
      exact (h.requireStable visit auditWritten).raise

theorem Sound.actions (visit : Visit) (actions : List Action) (st : State)
    (h : Sound cfg last (some st.clock) st) :
    Sound cfg last (some (actions.foldl (Action.run cfg visit) st).clock)
      (actions.foldl (Action.run cfg visit) st) := by
  induction actions generalizing st with
  | nil => exact h
  | cons action actions ih => exact ih _ (h.action visit action)

/-! ### Requests -/

theorem Sound.dispatch (h : Sound cfg last last st) (visit : Visit) (actions : List Action) :
    Sound cfg last (hookLimit visit last (st.dispatch cfg visit actions))
      (st.dispatch cfg visit actions) := by
  unfold State.dispatch
  split
  · exact h.toHook visit
  split
  · next st' heq => exact (enforceSessionActivity_spec h visit heq).1
  · next st' heq =>
      obtain ⟨hsound, htime⟩ := enforceSessionActivity_spec h visit heq
      have hserved : Sound cfg last (hookLimit visit last st')
          (if st'.session.items.userId.isSome then
          st'.log (.served st'.session.sid st'.clock) else st') := by
        split
        · next huser =>
            refine hsound.log (fun _ => rfl) rfl ?_
            rintro _ _ ⟨rfl, rfl⟩
            exact htime rfl huser
        · exact hsound
      unfold State.handle hookLimit at *
      cases hexempt : visit.activityExempt with
      | true =>
          simp only [hexempt, if_true] at hserved ⊢
          exact hserved
      | false =>
          simp only [hexempt, Bool.false_eq_true, if_false] at hserved ⊢
          exact Sound.actions visit actions _ hserved.raise

theorem Sound.permanent (h : Sound cfg last limit st) :
    Sound cfg last limit (st.update State.permanent) := by
  refine h.update ?_
  unfold State.permanent
  split
  · exact h.carried.current
  · exact h.carried.current.congr rfl rfl rfl

/-- The open session is saved, and the history says so. -/
theorem Sound.saveOpen (h : Sound cfg last limit st) (visit : Visit) (cookie : Option ℕ) :
    Sound cfg last limit ((((st.setPending fun r =>
      if r.sid = st.session.sid then st.saveRecord cfg visit r else r).commitQuietly visit).logFlag
        visit).setCookie visit cookie) := by
  have hsaved : Sound cfg last limit ((st.setPending fun r =>
      if r.sid = st.session.sid then st.saveRecord cfg visit r else r).commitQuietly visit) :=
    ⟨(h.carried.saveRecord cfg visit).commitQuietly visit,
      h.clocked.quiet (.trans (.setPending _ st) (.commitQuietly visit _))⟩
  have hlogged : Sound cfg last limit (((st.setPending fun r =>
      if r.sid = st.session.sid then st.saveRecord cfg visit r else r).commitQuietly visit).logFlag
        visit) := by
    unfold State.logFlag
    split
    · exact hsaved.log (fun _ => rfl) rfl fun _ _ he => (nomatch he)
    · exact hsaved
  exact ⟨hlogged.carried.setCookie visit cookie, hlogged.clocked.quiet (.setCookie visit cookie _)⟩

theorem Sound.saveSession (h : Sound cfg last limit st) (visit : Visit) :
    Sound cfg last limit (st.saveSession cfg visit) := by
  unfold State.saveSession
  split
  · split
    · exact ⟨((h.carried.endSessions _ .ended).commitQuietly visit).setCookie visit none,
        h.clocked.quiet (.trans (.trans (.setPending _ st) (.commitQuietly visit _))
          (.setCookie visit none _))⟩
    · exact h
  · have hpermanent := h.permanent
    dsimp only
    split
    · exact hpermanent.saveOpen visit _
    · have hadded := hpermanent.carried.addRecord (r := ⟨st.session.sid, none, none, st.clock,
        st.sessionExpiresAt cfg, none⟩) h.carried.opened rfl
      exact Sound.saveOpen ⟨hadded, hpermanent.clocked.quiet (.same rfl rfl le_rfl)⟩ visit _

/-- The invariant between requests. -/
structure Rested (cfg : Config) (last : Option ℤ) (st : State) : Prop where
  stored : Stored (Tracked last) st
  clocked : Clocked cfg last last st

/-- A request leaves its records tracked up to its end, if it counts as activity. -/
theorem Rested.serve (h : Rested cfg last st) (visit : Visit) (actions : List Action) :
    ∃ last', Rested cfg last' (st.serve cfg visit actions) := by
  have hopened : Sound cfg last last ((st.openSession visit).wait visit.untilHook) :=
    ⟨(h.stored.openSession (tracked_personal last) visit).wait _,
      (h.clocked.quiet (.openSession visit st)).wait _⟩
  have hdispatched := hopened.dispatch visit actions
  have hwaited := Sound.saveSession
    ⟨hdispatched.carried.wait visit.untilSave, hdispatched.clocked.wait visit.untilSave⟩ visit
  have hsaved := hwaited.carried.rollback
  have hclocked := hwaited.clocked.quiet (.rollback _)
  unfold State.serve State.finish
  dsimp only
  unfold hookLimit at hsaved hclocked
  split
  · next hexempt =>
      rw [if_pos hexempt] at hsaved hclocked
      exact ⟨last, hsaved.toStored, hclocked⟩
  · have hraised := Sound.raise ⟨hsaved, hclocked⟩
    exact ⟨some _, hraised.carried.toStored.log fun _ _ _ ht => ht.log rfl,
      hraised.clocked.clock, rfl, hraised.clocked.bounded,
      ⟨fun _ _ he => (nomatch he), hraised.clocked.timely⟩⟩

theorem Rested.step (h : Rested cfg last st) (step : Step) :
    ∃ last', Rested cfg last' (step.run cfg st) := by
  cases step with
  | request visit actions => exact h.serve visit actions
  | wait microseconds =>
      exact ⟨last, ⟨h.stored.numbered, h.stored.payload⟩, h.clocked.wait microseconds⟩
  | endSessions p reason =>
      exact ⟨last, (h.stored.endSessions p reason).commit, h.clocked.quiet (.same rfl rfl le_rfl)⟩

end Steps

/-! ### Runs -/

/-- The requests of the browser, one after the other. -/
def Runs (cfg : Config) : State → State → Prop :=
  Relation.ReflTransGen fun st st' => ∃ step : Step, st' = step.run cfg st

theorem rested_run {cfg : Config} {st₀ st : State} (h₀ : Initial st₀) (hrun : Runs cfg st₀ st) :
    ∃ last, Rested cfg last st := by
  induction hrun with
  | refl =>
      have hnone : ∀ r, ¬ (r ∈ st₀.records ∨ r ∈ st₀.pending) := by
        simp [h₀.records, h₀.pending]
      refine ⟨none, ⟨fun r hr => absurd hr (hnone r), fun r hr => absurd hr (hnone r)⟩, h₀.clock,
        ?_, fun _ hs => (nomatch hs), ?_⟩
      · rw [h₀.history]
        rfl
      · rw [h₀.history]
        trivial
  | tail _ hstep ih =>
      obtain ⟨last, hlast⟩ := ih
      obtain ⟨step, rfl⟩ := hstep
      exact hlast.step step

/-- A request is served as authenticated only within the inactivity timeout after
the last request that counts as activity, and within the absolute lifetime after
the full authentication of its session, each with a second of truncation. -/
theorem served_within_timeouts {cfg : Config} {st₀ st : State} (h₀ : Initial st₀)
    (hrun : Runs cfg st₀ st) {newer older : List Event} {sid : ℕ} {t : ℤ}
    (hserved : st.history = newer ++ .served sid t :: older) :
    (∃ s, lastRequest older = some s ∧ t - s ≤ (cfg.sessionInactivitySeconds + 1) * 1000000) ∧
      ∃ a, origin sid older = some a ∧
        t - a ≤ (cfg.sessionAbsoluteLifetimeSeconds + 1) * 1000000 := by
  obtain ⟨last, hrested⟩ := rested_run h₀ hrun
  have htimely := hrested.clocked.timely
  rw [hserved] at htimely
  exact htimely.served

theorem runs_foldl (cfg : Config) (steps : List Step) (st : State) :
    Runs cfg st (steps.foldl (Step.run cfg) st) := by
  induction steps generalizing st with
  | nil => exact .refl
  | cons step steps ih => exact .head ⟨step, rfl⟩ (ih _)

/-- A status poll. -/
def poll : Step := .request { plainVisit with activityExempt := true } []

/-- A login, polls, and a step-up that takes a second and a half. -/
def steppedUp : List Step :=
  [login, .wait 200000000, poll, .wait 90000000,
    .request plainVisit [.requireStableSessionForSensitiveAction true, .wait 1500000,
      .rotateAuthenticatedSessionAfterMfa 7],
    .wait 299000000, poll]

/-- What came before the last poll. -/
def beforeLastPoll : List Event :=
  [.request 1750000291500000, .rotated 2 3, .stable 2, .served 2 1750000290000000,
    .served 2 1750000200000000, .request 1750000000000000, .authenticated 2 1750000000000000,
    .rotated 1 2]

/-- The last poll is served in the rotated session. -/
theorem served_within_timeouts_poll :
    (afterSteps customerConfig steppedUp).history = .served 3 1750000590500000 :: beforeLastPoll ∧
      lastRequest beforeLastPoll = some 1750000291500000 ∧
      origin 3 beforeLastPoll = some 1750000000000000 ∧
      (∃ s, lastRequest beforeLastPoll = some s ∧ 1750000590500000 - s ≤ (300 + 1) * 1000000) ∧
      ∃ a, origin 3 beforeLastPoll = some a ∧ 1750000590500000 - a ≤ (1800 + 1) * 1000000 := by
  have hhistory : (afterSteps customerConfig steppedUp).history =
      [] ++ .served 3 1750000590500000 :: beforeLastPoll := by
    decide +kernel
  have hserved := served_within_timeouts initial_noSessions
    (runs_foldl customerConfig steppedUp noSessions) hhistory
  exact ⟨hhistory, rfl, rfl, hserved⟩

end SitBank.Browser
