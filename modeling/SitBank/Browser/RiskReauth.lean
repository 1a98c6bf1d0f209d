import SitBank.Browser.Timeouts

/-!
Sessions that must be authenticated again.

Once a session is saved with `risk_reauth_required`, its sensitive actions are
refused: the flag goes with the id of the session, and only a full authentication
or a rotation gives a new id. There is one more writer. A request whose detailed
user agent alone has changed stores a new context and takes the flag away; the
theorem is about runs without such a request in a flagged session.
-/

namespace SitBank.Browser

open SitBank.Sessions (EndReason Severity epochSeconds)

/-- A session that was saved with the flag has it. -/
def Bound : Trait := fun history sid items =>
  .flagged sid ∈ history → items.userId.isSome → items.riskReauthRequired = true

/-- No sensitive action was let through after its session was flagged. -/
def Refused : List Event → Prop
  | [] => True
  | e :: older => (∀ sid, e = .stable sid → .flagged sid ∉ older) ∧ Refused older

/-- The flags are of sessions that exist, and they were heeded. -/
structure Heeded (st : State) : Prop where
  fresh : ∀ sid, .flagged sid ∈ st.history → sid < st.nextSid
  refused : Refused st.history

/-- The invariant within a request. -/
structure Guarded (st : State) : Prop where
  carried : Carried Bound st
  heeded : Heeded st

/-- The request opens a flagged session, of which the detailed user agent alone has
changed. -/
def clearsReauth (cfg : Config) (st : State) : Step → Bool
  | .request visit _ =>
      match (st.cookie.bind fun sid => st.record sid).bind (·.payload) with
      | none => false
      | some items => items.riskReauthRequired &&
          sessionRiskSeverity cfg (sessionRiskContextChanges cfg visit items) = .low
  | _ => false

theorem Refused.stable {newer older : List Event} {sid : ℕ}
    (h : Refused (newer ++ .flagged sid :: older)) : .stable sid ∉ newer := by
  induction newer with
  | nil => exact List.not_mem_nil
  | cons e newer ih =>
      intro hmem
      rcases List.mem_cons.mp hmem with rfl | hmem
      · exact h.1 sid rfl (List.mem_append_right _ (.head _))
      · exact ih h.2 hmem

/-! ### Entries -/

section Entries

variable {history : List Event} {sid : ℕ} {items items' : Items}

theorem Bound.log {e : Event} (h : Bound history sid items) (he : e ≠ .flagged sid) :
    Bound (e :: history) sid items := by
  intro hmem
  rcases List.mem_cons.mp hmem with heq | hmem
  · exact absurd heq.symm he
  · exact h hmem

theorem bound_personal : Bound.Personal where
  signedOut history sid items hnone _ huser := by
    rw [hnone] at huser
    cases huser
  rotated history old new sid items _ h := h.log (fun he => nomatch he)

/-- The entries that the guard reads. -/
theorem Bound.congr (h : Bound history sid items) (huser : items'.userId = items.userId)
    (hflag : items'.riskReauthRequired = items.riskReauthRequired) : Bound history sid items' := by
  unfold Bound
  rw [huser, hflag]
  exact h

theorem Bound.touchRisk (h : Bound history sid items) (cfg : Config) (visit : Visit) (now : ℤ) :
    Bound history sid (touchSessionRiskContext cfg visit now items) := by
  unfold touchSessionRiskContext
  split
  · exact h.congr rfl rfl
  · split <;> exact h.congr rfl rfl

theorem bound_of_flag (h : items.riskReauthRequired = true) : Bound history sid items :=
  fun _ _ => h

/-- A session without the flag was never flagged. -/
theorem Bound.unflagged (h : Bound history sid items) (huser : items.userId.isSome)
    (hflag : items.riskReauthRequired = false) : .flagged sid ∉ history := by
  intro hmem
  rw [h hmem huser] at hflag
  cases hflag

/-- What an unflagged session may become. -/
theorem Bound.refresh (h : Bound history sid items) (hflag : items.riskReauthRequired = false)
    (huser : items'.userId = items.userId) : Bound history sid items' := by
  intro hmem huser'
  rw [huser] at huser'
  exact absurd hmem (h.unflagged huser' hflag)

theorem bound_of_new {st : State} (h : Heeded st) (items : Items) :
    Bound st.history st.nextSid items :=
  fun hmem => absurd (h.fresh _ hmem) (Nat.lt_irrefl _)

end Entries

/-! ### Steps -/

section Steps

variable {cfg : Config} {st : State}

theorem Heeded.quiet {st' : State} (h : Heeded st) (hquiet : Quiet st st') : Heeded st' where
  fresh := by
    have hfresh := hquiet.history (P := fun events => ∀ sid, .flagged sid ∈ events →
      sid < st.nextSid) (fun events old new hevents sid hmem => by
        rcases List.mem_cons.mp hmem with heq | hmem
        · cases heq
        · exact hevents sid hmem) h.fresh
    exact fun sid hmem => (hfresh sid hmem).trans_le hquiet.nextSid
  refused := hquiet.history (P := Refused) (fun _ _ _ h => ⟨fun _ he => (nomatch he), h⟩) h.refused

theorem Heeded.log (h : Heeded st) {e : Event}
    (hflagged : ∀ sid, e = .flagged sid → sid < st.nextSid)
    (hstable : ∀ sid, e = .stable sid → .flagged sid ∉ st.history) : Heeded (st.log e) where
  fresh sid hmem := by
    rcases List.mem_cons.mp hmem with heq | hmem
    · exact hflagged sid heq.symm
    · exact h.fresh sid hmem
  refused := ⟨hstable, h.refused⟩

theorem Guarded.wait (h : Guarded st) (microseconds : ℕ) : Guarded (st.wait microseconds) where
  carried := h.carried.wait microseconds
  heeded := ⟨h.heeded.fresh, h.heeded.refused⟩

theorem Guarded.update (h : Guarded st) {f : Items → Items}
    (hf : Bound st.history st.session.sid (f st.session.items)) : Guarded (st.update f) where
  carried := h.carried.update hf
  heeded := h.heeded.quiet (.update f st)

theorem Guarded.auditEvent (h : Guarded st) (written : Bool) : Guarded (st.auditEvent written) where
  carried := h.carried.auditEvent written
  heeded := h.heeded.quiet (.auditEvent written st)

theorem Guarded.clear (h : Guarded st) : Guarded st.clear where
  carried := h.carried.clear bound_personal
  heeded := h.heeded.quiet (.same rfl rfl le_rfl)

theorem Guarded.revokeCurrentSession (h : Guarded st) (reason : EndReason) :
    Guarded (st.revokeCurrentSession reason) where
  carried := h.carried.revokeCurrentSession bound_personal reason
  heeded := h.heeded.quiet (.same rfl rfl le_rfl)

/-- The only branch that clears the flag is the one that is excluded. -/
theorem Guarded.enforceAuthenticatedSessionContext (h : Guarded st) (visit : Visit)
    (hspare : st.session.items.riskReauthRequired = true →
      sessionRiskSeverity cfg (sessionRiskContextChanges cfg visit st.session.items) ≠ .low) :
    Guarded (st.enforceAuthenticatedSessionContext cfg visit).1 := by
  refine ⟨?_, h.heeded.quiet (.enforceAuthenticatedSessionContext cfg visit st)⟩
  have hcarried := h.carried
  have hevent := h.carried.auditEvent visit.auditWritten
  have hsame := auditEvent_same visit.auditWritten st
  unfold State.enforceAuthenticatedSessionContext
  split
  · exact hcarried
  split
  · exact hcarried.update (hcarried.current.touchRisk cfg visit _)
  · next hlow =>
      -- the session has no flag that this branch could take away
      have hflag : st.session.items.riskReauthRequired = false := by
        cases hflag : st.session.items.riskReauthRequired with
        | true => exact absurd hlow (hspare hflag)
        | false => rfl
      refine hevent.update ?_
      rw [hsame.history, hsame.sid]
      exact hcarried.current.refresh hflag hsame.userId
  · dsimp only
    split
    · exact hcarried.update (Bound.touchRisk (bound_of_flag rfl) cfg visit _)
    · exact hevent.update (Bound.touchRisk (bound_of_flag rfl) cfg visit _)
  · exact hevent.revokeCurrentSession bound_personal .riskChange

theorem Guarded.touchSession (h : Guarded st) (visit : Visit)
    (hspare : st.session.items.riskReauthRequired = true →
      sessionRiskSeverity cfg (sessionRiskContextChanges cfg visit st.session.items) ≠ .low) :
    Guarded (st.touchSession cfg visit).1 := by
  have hcontext := h.enforceAuthenticatedSessionContext visit hspare
  unfold State.touchSession
  split
  · next st₁ heq =>
      rw [heq] at hcontext
      exact hcontext
  · next st₁ heq =>
      rw [heq] at hcontext
      split
      · exact hcontext
      · have htouched := hcontext.update (f := fun items =>
          { items with lastActivityAt := some st₁.now }) (hcontext.carried.current.congr rfl rfl)
        exact ⟨htouched.carried.updateSessionActivity cfg,
          htouched.heeded.quiet (.updateSessionActivity cfg _)⟩

theorem withAuthCreatedAt_risk (now : ℤ) (items : Items) :
    (withAuthCreatedAt now items).userId = items.userId ∧
      (withAuthCreatedAt now items).riskReauthRequired = items.riskReauthRequired ∧
      (withAuthCreatedAt now items).riskContext = items.riskContext := by
  unfold withAuthCreatedAt
  split <;> exact ⟨rfl, rfl, rfl⟩

/-- Only the stored context is compared. -/
theorem sessionRiskContextChanges_congr (visit : Visit) {items items' : Items}
    (h : items'.riskContext = items.riskContext) :
    sessionRiskContextChanges cfg visit items' = sessionRiskContextChanges cfg visit items := by
  unfold sessionRiskContextChanges
  rw [h]

theorem Guarded.enforceSessionActivity (h : Guarded st) (visit : Visit)
    (hspare : st.session.items.riskReauthRequired = true →
      sessionRiskSeverity cfg (sessionRiskContextChanges cfg visit st.session.items) ≠ .low) :
    Guarded (st.enforceSessionActivity cfg visit).1 := by
  unfold State.enforceSessionActivity
  split
  · exact h.clear
  unfold State.enforceSessionLifetime
  dsimp only
  split
  · exact h
  split
  · exact ⟨h.carried.pendingMfaExpiryResponse bound_personal visit,
      h.heeded.quiet (.pendingMfaExpiryResponse visit st)⟩
  split
  · exact (h.auditEvent visit.auditWritten).revokeCurrentSession .absoluteLifetime
  · obtain ⟨huser, hflag, hcontext⟩ := withAuthCreatedAt_risk st.now st.session.items
    have hupdated : Guarded (st.update (withAuthCreatedAt st.now)) :=
      h.update (h.carried.current.congr huser hflag)
    split
    · exact hupdated.revokeCurrentSession .expired
    · refine hupdated.touchSession visit fun hset => ?_
      show sessionRiskSeverity cfg (sessionRiskContextChanges cfg visit
        (withAuthCreatedAt st.now st.session.items)) ≠ .low
      rw [sessionRiskContextChanges_congr visit hcontext]
      exact hspare (hflag.symm.trans hset)

/-! ### Handlers -/

/-- A new id has never been flagged, whatever its session holds. -/
theorem Guarded.regenerate (h : Stored Bound st) (hh : Heeded st) : Guarded st.regenerate where
  carried := Carried.regenerate bound_personal h
    ((bound_of_new hh st.session.items).log fun he => nomatch he)
  heeded := hh.quiet (.rotated (.refl st) rfl rfl (Nat.le_succ _))

theorem Guarded.registerSessionMetadata (h : Guarded st) (cfg : Config) (user : ℕ) :
    Guarded (st.registerSessionMetadata cfg user) where
  carried := h.carried.registerSessionMetadata cfg user
  heeded := h.heeded.quiet (.registerSessionMetadata cfg user st)

theorem Guarded.establishAuthenticatedSession (h : Guarded st) (visit : Visit)
    (user : ℕ) (mfaVerified : Bool) (authContext : String) :
    Guarded (st.establishAuthenticatedSession cfg visit user mfaVerified authContext) := by
  -- nothing is known of the entries that the new session starts with
  have hrenewed : ∀ items : Items, items.userId = some user → Guarded
      (State.update (refreshSessionRiskFingerprint cfg visit st.now)
        (((st.update fun _ => items).rotateSessionId).log
          (.authenticated (st.update fun _ => items).rotateSessionId.session.sid st.clock))) := by
    intro items huser
    have hstored : Stored Bound (st.update fun _ => items) :=
      ⟨h.carried.numbered, h.carried.payload⟩
    have hheeded : Heeded (st.update fun _ => items) := h.heeded.quiet (.update _ st)
    have hne : (st.update fun _ => items).session.items ≠ .empty := by
      rintro hempty
      have hnone := congrArg Items.userId hempty
      exact nomatch huser.symm.trans hnone
    unfold State.rotateSessionId
    rw [if_neg hne]
    have hrotated := Guarded.regenerate hstored hheeded
    have hlogged : Guarded ((st.update fun _ => items).regenerate.log
        (.authenticated (st.update fun _ => items).regenerate.session.sid st.clock)) :=
      ⟨hrotated.carried.log fun _ _ hb => hb.log fun he => (nomatch he),
        hrotated.heeded.log (fun _ he => (nomatch he)) fun _ he => (nomatch he)⟩
    refine hlogged.update (Bound.log (Bound.log ?_ fun he => (nomatch he)) fun he => (nomatch he))
    exact bound_of_new hheeded _
  have hregistered := (hrenewed { Items.empty with
    userId := some user
    authContext := authContext
    authCreatedAt := some st.now
    lastActivityAt := some st.now
    others := ["_permanent", "login_at"] ++
      if mfaVerified then ["mfa_verified_at", "fresh_mfa_verified_at"] else [] }
    rfl).registerSessionMetadata cfg user
  exact ⟨hregistered.carried.enforceActiveSessionCap user,
    hregistered.heeded.quiet (.enforceActiveSessionCap user _)⟩

theorem Guarded.markFreshMfa (h : Guarded st) : Guarded st.markFreshMfa := by
  refine Guarded.update h ?_
  exact h.carried.current.congr rfl rfl

theorem Guarded.rotateAuthenticatedSessionAfterMfa (h : Guarded st) (visit : Visit) (user : ℕ) :
    Guarded (st.rotateAuthenticatedSessionAfterMfa cfg visit user) := by
  have hmarked := h.markFreshMfa
  have hne : st.markFreshMfa.session.items ≠ .empty := by
    intro hempty
    have hnone : some st.now = none := congrArg Items.lastActivityAt hempty
    cases hnone
  unfold State.rotateAuthenticatedSessionAfterMfa State.rotateSessionId
  dsimp only
  rw [if_neg hne]
  refine Guarded.registerSessionMetadata ?_ cfg user
  refine (Guarded.regenerate hmarked.carried.toStored hmarked.heeded).update ?_
  exact (bound_of_new hmarked.heeded _).log fun he => nomatch he

/-- A sensitive action is let through only in a session without the flag. -/
theorem Guarded.requireStable (h : Guarded st) (visit : Visit) (auditWritten : Bool) :
    Guarded (st.requireStableSessionForSensitiveAction cfg visit auditWritten) := by
  unfold State.requireStableSessionForSensitiveAction
  dsimp only
  split
  · exact h
  · next hset =>
      have hflag : st.session.items.riskReauthRequired = false := Bool.eq_false_iff.mpr hset
      -- letting a signed-in session through is right, since its flag is not set
      have hpassed : ∀ st₁ : State, Guarded st₁ → st₁.session.sid = st.session.sid →
          st₁.history = st.history → Guarded (if st.session.items.userId.isSome then
            st₁.log (.stable st₁.session.sid) else st₁) := by
        intro st₁ h₁ hsid hhistory
        split
        · next huser =>
            refine ⟨h₁.carried.log fun _ _ hb => hb.log fun he => (nomatch he),
              h₁.heeded.log (fun _ he => (nomatch he)) ?_⟩
            rintro _ ⟨rfl⟩
            rw [hsid, hhistory]
            exact h.carried.current.unflagged huser hflag
        · exact h₁
      have hrefreshed : Guarded (st.update (refreshSessionRiskFingerprint cfg visit st.now)) :=
        h.update (h.carried.current.refresh hflag rfl)
      split
      · exact hpassed _ hrefreshed rfl rfl
      split
      · exact hpassed _ hrefreshed rfl rfl
      split
      · exact hpassed _ h rfl rfl
      split
      · exact hpassed _ hrefreshed rfl rfl
      · exact Guarded.auditEvent (h.update (bound_of_flag rfl)) auditWritten

/-- A session without a user, under a new id. -/
theorem Guarded.beginSignedOut (h : Guarded st) {items : Items} (hnone : items.userId = none) :
    Guarded (st.update fun _ => items).rotateSessionId := by
  have hupdated : Guarded (st.update fun _ => items) :=
    h.update (bound_personal.signedOut _ _ _ hnone)
  exact ⟨hupdated.carried.rotateSignedOut bound_personal hnone,
    hupdated.heeded.quiet (.rotateSessionId _)⟩

/-- One step of a handler. -/
theorem Guarded.action (h : Guarded st) (visit : Visit) (action : Action) :
    Guarded (action.run cfg visit st) := by
  cases action with
  | wait microseconds => exact h.wait microseconds
  | auditEvent written => exact h.auditEvent written
  | commit => exact ⟨h.carried.commit, h.heeded.quiet (.same rfl rfl le_rfl)⟩
  | rollback => exact ⟨h.carried.rollback, h.heeded.quiet (.rollback st)⟩
  | setOthers others =>
      exact Guarded.update (f := fun items => { items with others := others }) h
        (h.carried.current.congr rfl rfl)
  | clear => exact h.clear
  | endSessions p reason =>
      exact ⟨h.carried.endSessions p reason, h.heeded.quiet (.setPending _ st)⟩
  | revokeCurrentSession reason => exact h.revokeCurrentSession reason
  | beginPasswordAuthenticatedSession user =>
      show Guarded (st.beginPasswordAuthenticatedSession user)
      exact Guarded.beginSignedOut h rfl
  | beginResetSession =>
      show Guarded st.beginResetSession
      exact Guarded.beginSignedOut h rfl
  | establishAuthenticatedSession user mfaVerified authContext =>
      exact h.establishAuthenticatedSession visit user mfaVerified authContext
  | markFreshMfa => exact h.markFreshMfa
  | rotateAuthenticatedSessionAfterMfa user => exact h.rotateAuthenticatedSessionAfterMfa visit user
  | requireStableSessionForSensitiveAction auditWritten => exact h.requireStable visit auditWritten

theorem Guarded.actions (visit : Visit) (actions : List Action) (st : State) (h : Guarded st) :
    Guarded (actions.foldl (Action.run cfg visit) st) := by
  induction actions generalizing st with
  | nil => exact h
  | cons action actions ih => exact ih _ (h.action visit action)

/-! ### Requests -/

theorem Guarded.dispatch (h : Guarded st) (visit : Visit) (actions : List Action)
    (hspare : st.session.items.riskReauthRequired = true →
      sessionRiskSeverity cfg (sessionRiskContextChanges cfg visit st.session.items) ≠ .low) :
    Guarded (st.dispatch cfg visit actions) := by
  have hhook := h.enforceSessionActivity visit hspare
  unfold State.dispatch
  split
  · exact h
  split
  · next st' heq =>
      rw [heq] at hhook
      exact hhook
  · next st' heq =>
      rw [heq] at hhook
      have hserved : Guarded (if st'.session.items.userId.isSome then
          st'.log (.served st'.session.sid st'.clock) else st') := by
        split
        · exact ⟨hhook.carried.log fun _ _ hb => hb.log fun he => (nomatch he),
            hhook.heeded.log (fun _ he => (nomatch he)) fun _ he => (nomatch he)⟩
        · exact hhook
      unfold State.handle
      dsimp only
      split
      · exact hserved
      · exact Guarded.actions visit actions _ hserved

/-- What is committed under the id of the open session is that session. -/
theorem payload_of_saved {visit : Visit} (hsaved : visit.saved = .committed) {r : Record}
    {items : Items} (hr : r ∈ ((st.setPending fun r =>
        if r.sid = st.session.sid then st.saveRecord cfg visit r else r).commitQuietly
          visit).records ∨
      r ∈ ((st.setPending fun r =>
        if r.sid = st.session.sid then st.saveRecord cfg visit r else r).commitQuietly
          visit).pending)
    (hsid : r.sid = st.session.sid) (hitems : r.payload = some items) :
    items = st.session.items := by
  unfold State.commitQuietly at hr
  rw [hsaved] at hr
  obtain ⟨r₀, -, rfl⟩ := List.mem_map.mp (hr.elim id id)
  split at hitems
  · cases hitems
    rfl
  · next hne =>
      rw [if_neg hne] at hsid
      exact absurd hsid hne

/-- A session that is logged as flagged is flagged wherever it is stored. -/
theorem Guarded.logFlag (h : Guarded st) (visit : Visit)
    (hsaved : visit.saved = .committed → ∀ r, r ∈ st.records ∨ r ∈ st.pending →
      r.sid = st.session.sid → ∀ items, r.payload = some items → items = st.session.items) :
    Guarded (st.logFlag visit) := by
  unfold State.logFlag
  split
  · next hflagged =>
      simp only [Bool.and_eq_true, decide_eq_true_eq] at hflagged
      obtain ⟨⟨hcommitted, -⟩, hflag⟩ := hflagged
      refine ⟨⟨⟨h.carried.numbered, fun r hr items hitems => ?_⟩, h.carried.opened,
        bound_of_flag hflag⟩, h.heeded.log ?_ fun _ he => (nomatch he)⟩
      · by_cases hsid : r.sid = st.session.sid
        · rw [hsaved hcommitted r hr hsid items hitems]
          exact bound_of_flag hflag
        · refine (h.carried.payload r hr items hitems).log fun he => hsid ?_
          exact (Event.flagged.inj he).symm
      · rintro _ ⟨rfl⟩
        exact h.carried.opened
  · exact h

theorem Guarded.saveOpen (h : Guarded st) (visit : Visit) (cookie : Option ℕ) :
    Guarded ((((st.setPending fun r =>
      if r.sid = st.session.sid then st.saveRecord cfg visit r else r).commitQuietly visit).logFlag
        visit).setCookie visit cookie) := by
  have hquiet : Quiet st ((st.setPending fun r =>
      if r.sid = st.session.sid then st.saveRecord cfg visit r else r).commitQuietly visit) :=
    .trans (.setPending _ st) (.commitQuietly visit _)
  have hsession : ((st.setPending fun r =>
      if r.sid = st.session.sid then st.saveRecord cfg visit r else r).commitQuietly
        visit).session =
      st.session := by
    unfold State.commitQuietly
    split <;> rfl
  have hsaved : Guarded ((st.setPending fun r =>
      if r.sid = st.session.sid then st.saveRecord cfg visit r else r).commitQuietly visit) :=
    ⟨(h.carried.saveRecord cfg visit).commitQuietly visit, h.heeded.quiet hquiet⟩
  have hlogged := hsaved.logFlag visit fun hcommitted r hr hsid items hitems => by
    rw [hsession] at hsid ⊢
    exact payload_of_saved hcommitted hr hsid hitems
  exact ⟨hlogged.carried.setCookie visit cookie, hlogged.heeded.quiet (.setCookie visit cookie _)⟩

theorem Guarded.saveSession (h : Guarded st) (visit : Visit) :
    Guarded (st.saveSession cfg visit) := by
  unfold State.saveSession
  split
  · split
    · exact ⟨((h.carried.endSessions _ .ended).commitQuietly visit).setCookie visit none,
        h.heeded.quiet (.trans (.trans (.setPending _ st) (.commitQuietly visit _))
          (.setCookie visit none _))⟩
    · exact h
  · have hpermanent : Guarded (st.update State.permanent) := by
      refine h.update ?_
      unfold State.permanent
      split
      · exact h.carried.current
      · exact h.carried.current.congr rfl rfl
    dsimp only
    split
    · exact hpermanent.saveOpen visit _
    · have hadded := hpermanent.carried.addRecord (r := ⟨st.session.sid, none, none, st.clock,
        st.sessionExpiresAt cfg, none⟩) h.carried.opened rfl
      exact Guarded.saveOpen ⟨hadded, hpermanent.heeded.quiet (.same rfl rfl le_rfl)⟩ visit _

/-- The session that a request opens: a new one, or the payload of its cookie. -/
theorem items_openSession (visit : Visit) (st : State) :
    (st.openSession visit).session.items = .empty ∨
      (st.cookie.bind fun sid => st.record sid).bind (·.payload) =
        some (st.openSession visit).session.items := by
  unfold State.openSession
  split
  · exact .inl rfl
  · next r hr =>
      rw [hr]
      unfold State.openRecord
      split
      · exact .inl rfl
      split
      · exact .inl rfl
      split
      · exact .inl rfl
      · next items hitems =>
          split
          · exact .inl rfl
          · exact .inr hitems

/-- The invariant between requests. -/
structure Kept (st : State) : Prop where
  stored : Stored Bound st
  heeded : Heeded st

theorem Kept.serve (h : Kept st) (visit : Visit) (actions : List Action)
    (hspare : clearsReauth cfg st (.request visit actions) = false) :
    Kept (st.serve cfg visit actions) := by
  have hopened : Guarded ((st.openSession visit).wait visit.untilHook) :=
    Guarded.wait ⟨h.stored.openSession bound_personal visit,
      h.heeded.quiet (.openSession visit st)⟩ visit.untilHook
  have hdispatched : Guarded (((st.openSession visit).wait visit.untilHook).dispatch cfg visit
      actions) := by
    refine hopened.dispatch visit actions fun hflag => ?_
    rcases items_openSession visit st with hempty | hitems
    · have hnone : (st.openSession visit).session.items.riskReauthRequired = true := hflag
      rw [hempty] at hnone
      cases hnone
    · intro hlow
      unfold clearsReauth at hspare
      simp only [hitems] at hspare
      simp only [Bool.and_eq_false_iff, decide_eq_false_iff_not] at hspare
      rcases hspare with hspare | hspare
      · exact Bool.false_ne_true (hspare.symm.trans hflag)
      · exact hspare hlow
  have hsaved : Guarded (State.saveSession cfg visit _) :=
    (hdispatched.wait visit.untilSave).saveSession visit
  have hrolled : Guarded (State.rollback _) :=
    ⟨hsaved.carried.rollback, hsaved.heeded.quiet (.rollback _)⟩
  unfold State.serve State.finish
  dsimp only
  split
  · exact ⟨hrolled.carried.toStored, hrolled.heeded⟩
  · exact ⟨hrolled.carried.toStored.log fun _ _ _ hb => hb.log fun he => (nomatch he),
      hrolled.heeded.log (fun _ he => (nomatch he)) fun _ he => (nomatch he)⟩

theorem Kept.step (h : Kept st) (step : Step) (hspare : clearsReauth cfg st step = false) :
    Kept (step.run cfg st) := by
  cases step with
  | request visit actions => exact h.serve visit actions hspare
  | wait microseconds =>
      exact ⟨⟨h.stored.numbered, h.stored.payload⟩, ⟨h.heeded.fresh, h.heeded.refused⟩⟩
  | endSessions p reason =>
      exact ⟨(h.stored.endSessions p reason).commit, h.heeded.quiet (.same rfl rfl le_rfl)⟩

end Steps

/-! ### Runs -/

/-- Requests that take no flag away by a change of the detailed user agent. -/
def SparingRuns (cfg : Config) : State → State → Prop :=
  Relation.ReflTransGen fun st st' =>
    ∃ step : Step, clearsReauth cfg st step = false ∧ st' = step.run cfg st

theorem kept_runs {cfg : Config} {st₀ st : State} (h₀ : Initial st₀)
    (hrun : SparingRuns cfg st₀ st) : Kept st := by
  induction hrun with
  | refl =>
      have hnone : ∀ r, ¬ (r ∈ st₀.records ∨ r ∈ st₀.pending) := by
        simp [h₀.records, h₀.pending]
      refine ⟨⟨fun r hr => absurd hr (hnone r), fun r hr => absurd hr (hnone r)⟩,
        fun sid hmem => ?_, ?_⟩
      · rw [h₀.history] at hmem
        cases hmem
      · rw [h₀.history]
        trivial
  | tail _ hstep ih =>
      obtain ⟨step, hspare, rfl⟩ := hstep
      exact ih.step step hspare

/-- Once a session was saved with the flag, none of its sensitive actions is let
through: only a full authentication or a rotation gives it a new id. -/
theorem flagged_session_refused {cfg : Config} {st₀ st : State} (h₀ : Initial st₀)
    (hrun : SparingRuns cfg st₀ st) {newer older : List Event} {sid : ℕ}
    (hflagged : st.history = newer ++ .flagged sid :: older) : .stable sid ∉ newer := by
  have hrefused := (kept_runs h₀ hrun).heeded.refused
  rw [hflagged] at hrefused
  exact hrefused.stable

/-- The steps, made one after the other, take no flag away. -/
def sparing (cfg : Config) : State → List Step → Bool
  | _, [] => true
  | st, step :: steps => !clearsReauth cfg st step && sparing cfg (step.run cfg st) steps

theorem runs_of_sparing {cfg : Config} (steps : List Step) (st : State)
    (h : sparing cfg st steps = true) : SparingRuns cfg st (steps.foldl (Step.run cfg) st) := by
  induction steps generalizing st with
  | nil => exact .refl
  | cons step steps ih =>
      obtain ⟨hstep, hsteps⟩ := Bool.and_eq_true_iff.mp h
      exact .head ⟨step, by simpa using hstep, rfl⟩ (ih _ hsteps)

/-- A sensitive action, from this address and browser. -/
def sensitive (remoteAddr userAgent : String) : Step :=
  .request { plainVisit with remoteAddr := remoteAddr, userAgent := userAgent }
    [.requireStableSessionForSensitiveAction true]

/-- A login, and requests from another network and back. -/
def roaming : List Step :=
  [login, sensitive "203.0.1.5" "Firefox/140", sensitive "192.0.2.17" "Firefox/140"]

/-- Back in its own network the session is still refused. -/
theorem flagged_session_refused_roaming :
    (afterSteps customerConfig roaming).history =
        [.request 1750000000000000, .flagged 2, .served 2 1750000000000000,
          .request 1750000000000000] ++ .flagged 2 :: [.served 2 1750000000000000,
          .request 1750000000000000, .authenticated 2 1750000000000000, .rotated 1 2] ∧
      Event.stable 2 ∉ [Event.request 1750000000000000, .flagged 2, .served 2 1750000000000000,
        .request 1750000000000000] := by
  have hhistory : (afterSteps customerConfig roaming).history =
      [.request 1750000000000000, .flagged 2, .served 2 1750000000000000,
        .request 1750000000000000] ++ .flagged 2 :: [.served 2 1750000000000000,
        .request 1750000000000000, .authenticated 2 1750000000000000, .rotated 1 2] := by
    decide +kernel
  have hspare : sparing customerConfig noSessions roaming = true := by
    decide +kernel
  exact ⟨hhistory, flagged_session_refused initial_noSessions
    (runs_of_sparing roaming noSessions hspare) hhistory⟩

/-- What the login and the request from the other network leave. -/
def flaggedItems : Items where
  userId := some 7
  pendingMfaUserId := none
  passwordAuthenticatedAt := none
  authContext := "password+totp"
  authCreatedAt := some 1750000000
  lastActivityAt := some 1750000000
  riskFingerprint := some "192.0.2.0/24|Firefox/140|password+totp"
  riskContext := some
    { version := 1
      ipNetworkHash := "session-risk-context:ip_network:192.0.2.0/24"
      userAgentFamilyHash := "session-risk-context:user_agent_family:firefox"
      userAgentHash := "session-risk-context:user_agent:firefox/140"
      lastCheckedAt := 1750000000 }
  riskReauthRequired := true
  others := ["_permanent", "login_at", "mfa_verified_at", "fresh_mfa_verified_at"]

def flaggedRecord : Record :=
    ⟨2, some 7, some flaggedItems, 1750000000000000, 1750000300000000, none⟩

def flaggedState : State where
  clock := 1750000000000000
  records := [flaggedRecord]
  pending := [flaggedRecord]
  session := ⟨2, flaggedItems, true⟩
  nextSid := 3
  cookie := some 2
  history := [.request 1750000000000000, .flagged 2, .served 2 1750000000000000,
    .request 1750000000000000, .authenticated 2 1750000000000000, .rotated 1 2]

theorem afterSteps_append (cfg : Config) (steps : List Step) (step : Step) :
    afterSteps cfg (steps ++ [step]) = step.run cfg (afterSteps cfg steps) :=
  List.foldl_append

theorem afterSteps_flagged :
    afterSteps customerConfig [login, sensitive "203.0.1.5" "Firefox/140"] = flaggedState := by
  decide +kernel

/-- After an update of the browser, in the old network, the flagged session is let
through. -/
theorem agent_change_clears_flag :
    (afterSteps customerConfig ([login, sensitive "203.0.1.5" "Firefox/140"] ++
      [sensitive "192.0.2.17" "Firefox/141"])).history =
      [.request 1750000000000000, .stable 2, .served 2 1750000000000000,
        .request 1750000000000000] ++ .flagged 2 :: [.served 2 1750000000000000,
        .request 1750000000000000, .authenticated 2 1750000000000000, .rotated 1 2] := by
  rw [afterSteps_append, afterSteps_flagged]
  decide +kernel

end SitBank.Browser
