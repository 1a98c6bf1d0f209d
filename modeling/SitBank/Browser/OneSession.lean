import SitBank.Browser.LiveSessions

/-!
One live session per user and component.

An authentication ends every other live record of the user before its own record gets a
payload, and a rotation ends the record of the session that goes on. So the record that a
request saves is the only live one of its user, unless a rollback has undone the end of
another. The samples show both.
-/

namespace SitBank.Browser

/-! ### Handlers -/

section Handlers

variable {cfg : Config} {st : State}

/-- The id of the open session is new. -/
structure Fresh (st : State) : Prop where
  records : ∀ r ∈ st.records, r.sid ≠ st.session.sid
  pending : ∀ r ∈ st.pending, r.sid ≠ st.session.sid

theorem Tables.freshRegenerate (h : Tables st) : Fresh st.regenerate where
  records r hr := Nat.ne_of_lt (h.committed.numbered r hr)
  pending r hr := by
    have hended := h.endSessions (fun r => r.sid = st.session.sid) .rotated
    exact Nat.ne_of_lt (hended.pending.numbered r hr)

theorem Tables.unsignedRegenerate (h : Tables st) (a : ℤ) :
    .authenticated st.regenerate.session.sid a ∉ st.regenerate.history :=
  fun ha => Nat.lt_irrefl _ (h.logins.numbered _ a (signed_of_rotated ha))

/-- A session without a user goes on under a new id. -/
theorem Tables.rotateSignedOut (h : Tables st) (hnone : st.session.items.userId = none) :
    Steady st.regenerate where
  toTables := h.regenerate
  opened := Nat.lt_succ_self _
  unsigned _ := h.unsignedRegenerate
  recent := by
    intro user huser
    rw [show st.regenerate.session.items.userId = none from hnone] at huser
    cases huser
  known := by
    intro user huser
    rw [show st.regenerate.session.items.userId = none from hnone] at huser
    cases huser
  own := by
    intro user huser
    rw [show st.regenerate.session.items.userId = none from hnone] at huser
    cases huser

/-- The record that `register_session_metadata` adds for a new id. -/
def State.registered (cfg : Config) (user : ℕ) (st : State) : Record :=
  ⟨st.session.sid, some user, none, st.clock, st.sessionExpiresAt cfg, none⟩

theorem registerSessionMetadata_eq (hfresh : Fresh st) (user : ℕ) :
    st.registerSessionMetadata cfg user =
      { st with pending := st.pending ++ [st.registered cfg user] } := by
  have hnone : st.record st.session.sid = none := by
    refine List.find?_eq_none.mpr fun r hr => ?_
    simpa using hfresh.pending r hr
  have hkept : st.pending.map (fun r => if r.sid = st.session.sid then
      { r with
        userId := some user, lastActivityAt := st.clock, expiresAt := st.sessionExpiresAt cfg }
      else r) = st.pending := by
    rw [List.map_congr_left fun r hr => if_neg (hfresh.pending r hr)]
    exact List.map_id' _
  unfold State.registerSessionMetadata
  rw [hnone]
  simp only [Option.isSome_none, Bool.false_eq_true, if_false]
  unfold State.setPending
  rw [List.map_append]
  exact congrArg (fun rows : List Record => { st with pending := rows })
    (congrArg₂ (· ++ ·) hkept (congrArg (fun r => [r]) (if_pos rfl)))

/-- A record without a payload joins the transaction. -/
theorem Latest.append {history : List Event} {rows : List Record} {user sid : ℕ} {r : Record}
    (h : Latest history rows user sid) (hunsigned : ∀ a, .authenticated r.sid a ∉ history) :
    Latest history (rows ++ [r]) user sid := by
  obtain ⟨a, horigin, hlatest⟩ := h
  refine ⟨a, horigin, fun r' hr' huser a' ha' => ?_⟩
  rcases List.mem_append.mp hr' with hr' | hr'
  · exact hlatest r' hr' huser a' ha'
  · rw [List.mem_singleton.mp hr'] at ha'
    exact absurd ha' (hunsigned a')

theorem not_live_of_payload {user : ℕ} {clock : ℤ} {r : Record} (h : r.payload = none) :
    ¬live user clock r := by
  intro hlive
  obtain ⟨-, -, -, items, hitems, -⟩ := live_iff.mp hlive
  rw [h] at hitems
  cases hitems

theorem Steady.register (h : Steady st) (hfresh : Fresh st)
    (hunsigned : ∀ a, .authenticated st.session.sid a ∉ st.history) {user : ℕ}
    (huser : st.session.items.userId = some user) :
      Steady (st.registerSessionMetadata cfg user) := by
  rw [registerSessionMetadata_eq hfresh]
  have hnone : ∀ user' ∈ (st.registered cfg user).userId, ∀ r ∈ st.pending,
      ¬live user' st.clock r := by
    intro user' huser' r hr hlive
    cases huser'
    exact hfresh.pending r hr (h.own user huser r hr hlive)
  exact {
    logins := h.logins
    committed := h.committed
    pending := h.pending.append hfresh.pending h.opened rfl hnone
    opened := h.opened
    unsigned := h.unsigned
    recent := fun user' huser' => (h.recent user' huser').append hunsigned
    known := h.known
    own := by
      intro user' huser' r hr hlive
      rcases List.mem_append.mp hr with hr | hr
      · exact h.own user' huser' r hr hlive
      · rw [List.mem_singleton.mp hr] at hlive
        exact absurd hlive (not_live_of_payload rfl) }

theorem refresh_narrows (cfg : Config) (visit : Visit) (now : ℤ) (items : Items) :
    Narrows items (refreshSessionRiskFingerprint cfg visit now items) := narrows_of_eq rfl rfl

theorem Steady.markFreshMfa (h : Steady st) : Steady st.markFreshMfa := by
  unfold State.markFreshMfa
  exact h.update (narrows_of_eq rfl rfl)

theorem Steady.rotateAuthenticatedSessionAfterMfa (h : Steady st) (visit : Visit) {user : ℕ}
    (huser : st.session.items.userId = some user) :
    Steady (st.rotateAuthenticatedSessionAfterMfa cfg visit user) := by
  have hmarked := h.markFreshMfa
  have hrotated : st.markFreshMfa.rotateSessionId = st.markFreshMfa.regenerate := by
    refine if_neg fun hempty => ?_
    have hothers := congrArg Items.others hempty
    cases hothers
  have hfresh := hmarked.toTables.freshRegenerate
  unfold State.rotateAuthenticatedSessionAfterMfa
  rw [hrotated]
  exact (hmarked.regenerate.update (refresh_narrows cfg visit _ _)).register
    ⟨hfresh.records, hfresh.pending⟩ hmarked.toTables.unsignedRegenerate huser

/-! ### Authentication -/

/-- The event of an authentication into a new id. -/
theorem Tables.authenticate (h : Tables st) (hfresh : Fresh st)
    (hunsigned : ∀ a, .authenticated st.session.sid a ∉ st.history)
    (hlt : st.session.sid < st.nextSid) :
    Tables (st.log (.authenticated st.session.sid st.clock)) := by
  -- the new login changes what is known of this session only
  have horigin : ∀ sid, sid ≠ st.session.sid →
      origin sid (.authenticated st.session.sid st.clock :: st.history) = origin sid st.history :=
    fun sid hne => if_neg (Ne.symm hne)
  have hsigned : ∀ sid, sid ≠ st.session.sid → ∀ a,
      .authenticated sid a ∈ Event.authenticated st.session.sid st.clock :: st.history →
      .authenticated sid a ∈ st.history := by
    intro sid hne a ha
    rcases List.mem_cons.mp ha with heq | ha
    · cases heq
      exact absurd rfl hne
    · exact ha
  refine ⟨⟨fun sid a ha => ?_, fun sid a ha => ?_, fun sid a ha => ?_⟩,
    h.committed.extend le_rfl (fun r hr => horigin _ (hfresh.records r hr)) fun r hr =>
      hsigned _ (hfresh.records r hr),
    h.pending.extend le_rfl (fun r hr => horigin _ (hfresh.pending r hr)) fun r hr =>
      hsigned _ (hfresh.pending r hr)⟩
  · rcases List.mem_cons.mp ha with heq | ha
    · cases heq
      exact le_rfl
    · exact h.logins.past sid a ha
  · rcases List.mem_cons.mp ha with heq | ha
    · cases heq
      exact hlt
    · exact h.logins.numbered sid a ha
  · by_cases hsid : sid = st.session.sid
    · subst hsid
      rcases List.mem_cons.mp ha with heq | ha
      · cases heq
        exact if_pos rfl
      · exact absurd ha (hunsigned a)
    · exact (horigin sid hsid).trans (h.logins.direct sid a (hsigned sid hsid a ha))

/-- What `enforce_active_session_cap` makes of a record. -/
def cappedRecord (user sid : ℕ) (clock : ℤ) (r : Record) : Record :=
  let r := if State.isStale user clock r then State.endSessionRecord .expired r else r
  if State.isActive user clock r && r.sid ≠ sid then State.endSessionRecord .sessionCap r else r

theorem fades_cappedRecord (user sid : ℕ) (clock : ℤ) (r : Record) :
    Fades r (cappedRecord user sid clock r) := by
  have hstale := fades_endSessions (State.isStale user clock) .expired r
  have hexcess := fades_endSessions (fun r => State.isActive user clock r && r.sid ≠ sid)
    .sessionCap (if State.isStale user clock r then State.endSessionRecord .expired r else r)
  exact ⟨hexcess.sid.trans hstale.sid, hexcess.userId.trans hstale.userId,
    fun items h => hstale.payload items (hexcess.payload items h),
    fun user' clock' h => hstale.live user' clock' (hexcess.live user' clock' h)⟩

theorem not_live_excess {user sid : ℕ} {clock : ℤ} {r : Record} (hne : r.sid ≠ sid) :
    ¬live user clock (if State.isActive user clock r && r.sid ≠ sid then
      State.endSessionRecord .sessionCap r else r) := by
  intro hlive
  split at hlive
  · exact not_live_endSessionRecord .sessionCap r hlive
  · next hkept =>
      obtain ⟨hactive, -⟩ := Bool.and_eq_true_iff.mp (show live user clock r = true from hlive)
      rw [hactive] at hkept
      simp [hne] at hkept

theorem not_live_cappedRecord {user sid : ℕ} {clock : ℤ} {r : Record} (hne : r.sid ≠ sid) :
    ¬live user clock (cappedRecord user sid clock r) := by
  refine not_live_excess ?_
  rw [(fades_endSessions (State.isStale user clock) .expired r).sid]
  exact hne

theorem payload_cappedRecord {user sid : ℕ} {clock : ℤ} {r : Record} (h : r.payload = none) :
    (cappedRecord user sid clock r).payload = none := by
  refine Option.eq_none_iff_forall_not_mem.mpr fun items hitems => ?_
  have hold := (fades_cappedRecord user sid clock r).payload items hitems
  rw [h] at hold
  cases hold

theorem endSessions_capped (user : ℕ) (st : State) :
    (st.endSessions (State.isStale user st.clock) .expired).endSessions
        (fun r => State.isActive user st.clock r && r.sid ≠ st.session.sid) .sessionCap =
      st.setPending (cappedRecord user st.session.sid st.clock) := by
  unfold State.endSessions State.setPending
  simp only [List.map_map]
  rfl

/-- The record of the new session joins those that are left. -/
theorem Tables.capped (h : Tables st) (hfresh : Fresh st) (hlt : st.session.sid < st.nextSid)
    {user : ℕ} (huser : st.session.items.userId = some user)
    (hpending : st.session.items.pendingMfaUserId = none)
    (horigin : origin st.session.sid st.history = some st.clock) :
    Steady ({ st with pending := st.pending ++ [st.registered cfg user] }.setPending
      (cappedRecord user st.session.sid st.clock)) := by
  -- the older rows of the user lose their payload, so none of them is live
  have hnew : ∀ r ∈ st.pending.map (cappedRecord user st.session.sid st.clock),
      r.sid ≠ st.session.sid ∧ ¬live user st.clock r := by
    intro r hr
    obtain ⟨r₀, hr₀, rfl⟩ := List.mem_map.mp hr
    have hne := hfresh.pending r₀ hr₀
    exact ⟨(fades_cappedRecord _ _ _ r₀).sid ▸ hne, not_live_cappedRecord hne⟩
  have hfades := fades_cappedRecord user st.session.sid st.clock (st.registered cfg user)
  have hpayload : (cappedRecord user st.session.sid st.clock (st.registered cfg user)).payload =
      none := payload_cappedRecord rfl
  -- this session is the user's latest login: it was made just now
  have hlatest : ∀ rows, ∀ user' ∈ st.session.items.userId,
      Latest st.history rows user' st.session.sid :=
    fun rows user' _ => ⟨st.clock, horigin, fun r _ _ a ha => h.logins.past _ a ha⟩
  have hrows : { st with pending := st.pending ++ [st.registered cfg user] }.setPending
      (cappedRecord user st.session.sid st.clock) = { st with
        pending := st.pending.map (cappedRecord user st.session.sid st.clock) ++
          [cappedRecord user st.session.sid st.clock (st.registered cfg user)] } := by
    unfold State.setPending
    rw [List.map_append]
    rfl
  rw [hrows]
  exact {
    logins := h.logins
    committed := h.committed
    pending := by
      refine (h.pending.fade fun r _ => fades_cappedRecord _ _ _ r).append
        (fun r hr => hfades.sid ▸ (hnew r hr).1) (hfades.sid ▸ hlt) hpayload ?_
      intro user' huser' r hr
      rw [hfades.userId] at huser'
      cases huser'
      exact (hnew r hr).2
    opened := hlt
    unsigned := by
      intro hsome
      rw [show st.session.items.pendingMfaUserId = none from hpending] at hsome
      cases hsome
    recent := hlatest _
    known := hlatest _
    own := by
      intro user' huser' r hr hlive
      cases huser.symm.trans huser'
      rcases List.mem_append.mp hr with hr | hr
      · exact absurd hlive (hnew r hr).2
      · rw [List.mem_singleton.mp hr] at hlive
        exact absurd hlive (not_live_of_payload hpayload) }

theorem Tables.enroll (h : Tables st) (hfresh : Fresh st) (hlt : st.session.sid < st.nextSid)
    {user : ℕ} (huser : st.session.items.userId = some user)
    (hpending : st.session.items.pendingMfaUserId = none)
    (horigin : origin st.session.sid st.history = some st.clock) :
    Steady ((st.registerSessionMetadata cfg user).enforceActiveSessionCap user) := by
  have hcapped : Steady ({ st with pending := st.pending ++ [st.registered cfg user] }.setPending
      (cappedRecord user st.session.sid st.clock)) := h.capped hfresh hlt huser hpending horigin
  rw [registerSessionMetadata_eq hfresh]
  unfold State.enforceActiveSessionCap
  dsimp only
  have heq := endSessions_capped user { st with pending := st.pending ++ [st.registered cfg user] }
  split
  · exact (heq ▸ hcapped).commit
  · exact heq ▸ hcapped

theorem Tables.signIn (h : Tables st) (visit : Visit) {user : ℕ}
    (huser : st.session.items.userId = some user)
    (hpending : st.session.items.pendingMfaUserId = none) :
    Steady ((((st.regenerate.log (.authenticated st.regenerate.session.sid
      st.regenerate.clock)).update (refreshSessionRiskFingerprint cfg visit
        st.regenerate.now)).registerSessionMetadata cfg user).enforceActiveSessionCap user) := by
  have hfresh := h.freshRegenerate
  have hsigned := h.regenerate.authenticate hfresh h.unsignedRegenerate (Nat.lt_succ_self _)
  have hupdated : Tables ((st.regenerate.log (.authenticated st.regenerate.session.sid
      st.regenerate.clock)).update (refreshSessionRiskFingerprint cfg visit st.regenerate.now)) :=
    ⟨hsigned.logins, hsigned.committed, hsigned.pending⟩
  exact hupdated.enroll ⟨hfresh.records, hfresh.pending⟩ (Nat.lt_succ_self _) huser hpending
    (if_pos rfl)

theorem Tables.establish (h : Tables st) (visit : Visit) (user : ℕ) (mfaVerified : Bool)
    (authContext : String) :
    Steady (st.establishAuthenticatedSession cfg visit user mfaVerified authContext) := by
  unfold State.establishAuthenticatedSession
  extract_lets base st₁ st₂ st₃ st₄
  have hrotated : st₂ = st₁.regenerate := by
    refine if_neg fun hempty => ?_
    have huser : some user = none := congrArg Items.userId hempty
    cases huser
  have hupdated : Tables st₁ := ⟨h.logins, h.committed, h.pending⟩
  have hsigned := @Tables.signIn cfg st₁ hupdated visit user rfl rfl
  rw [← hrotated] at hsigned
  exact hsigned

theorem Steady.beginSignedOut (h : Steady st) {f : Items → Items}
    (huser : (f st.session.items).userId = none) (hempty : f st.session.items ≠ .empty) :
    Steady (st.update f).rotateSessionId := by
  have hupdated : Tables (st.update f) := ⟨h.logins, h.committed, h.pending⟩
  have hrotated : (st.update f).rotateSessionId = (st.update f).regenerate := if_neg hempty
  rw [hrotated]
  exact hupdated.rotateSignedOut huser

theorem Steady.beginPassword (h : Steady st) (user : ℕ) :
    Steady (st.beginPasswordAuthenticatedSession user) := by
  unfold State.beginPasswordAuthenticatedSession
  refine h.beginSignedOut rfl fun hempty => ?_
  have hpending : some user = none := congrArg Items.pendingMfaUserId hempty
  cases hpending

theorem Steady.beginReset (h : Steady st) : Steady st.beginResetSession := by
  unfold State.beginResetSession
  refine h.beginSignedOut rfl fun hempty => ?_
  have hothers := congrArg Items.others hempty
  cases hothers

theorem Steady.requireStable (h : Steady st) (visit : Visit) {written : Bool}
    (hsettled : written = false → st.Settled) :
    Steady (st.requireStableSessionForSensitiveAction cfg visit written) := by
  have hpassed : ∀ st' : State, Steady st' → Steady
      (if st.session.items.userId.isSome then st'.log (.stable st'.session.sid) else st') := by
    intro st' h'
    split
    · exact h'.log trivial
    · exact h'
  have hrefreshed := h.update (refresh_narrows cfg visit st.now st.session.items)
  unfold State.requireStableSessionForSensitiveAction
  dsimp only
  split
  · exact h
  split
  · exact hpassed _ hrefreshed
  split
  · exact hpassed _ hrefreshed
  split
  · exact hpassed _ h
  split
  · exact hpassed _ hrefreshed
  · exact (h.update (f := fun items => { items with riskReauthRequired := true })
      (narrows_of_eq rfl rfl)).auditEvent hsettled

theorem Steady.action (h : Steady st) (visit : Visit) (a : Action) (ha : a.Orderly st) :
    Steady (a.run cfg visit st) := by
  cases a with
  | wait microseconds => exact h.wait microseconds
  | auditEvent written => exact h.auditEvent ha
  | commit => exact h.commit
  | rollback => exact h.rollback ha
  | setOthers others =>
      exact h.update (f := fun items => { items with others := others }) (narrows_of_eq rfl rfl)
  | clear => exact h.clear
  | endSessions p reason => exact h.endSessions p reason
  | revokeCurrentSession reason => exact h.revokeCurrentSession reason
  | beginPasswordAuthenticatedSession user => exact h.beginPassword user
  | beginResetSession => exact h.beginReset
  | establishAuthenticatedSession user mfaVerified authContext =>
      exact h.toTables.establish visit user mfaVerified authContext
  | markFreshMfa => exact h.markFreshMfa
  | rotateAuthenticatedSessionAfterMfa user =>
      exact h.rotateAuthenticatedSessionAfterMfa visit ha
  | requireStableSessionForSensitiveAction written => exact h.requireStable visit ha

theorem Steady.actions (h : Steady st) (visit : Visit) {actions : List Action}
    (horderly : Orderly cfg visit st actions) :
    Steady (actions.foldl (Action.run cfg visit) st) := by
  induction actions generalizing st with
  | nil => exact h
  | cons a actions ih => exact ih (h.action visit a horderly.1) horderly.2

end Handlers

/-! ### Requests -/

section Requests

variable {cfg : Config} {st : State}

theorem Hooked.dispatch (h : Hooked st) {visit : Visit} {actions : List Action}
    (horderly : ∀ st' ∈ st.handlerState cfg visit, Orderly cfg visit st' actions) :
    Steady (st.dispatch cfg visit actions) := by
  have hchecked : Steady (st.enforceSessionActivity cfg visit).1 := h.enforceSessionActivity visit
  unfold State.handlerState at horderly
  unfold State.dispatch
  split
  · exact h.toSteady
  next hbefore =>
    split
    · next st₁ heq =>
        rw [heq] at hchecked
        exact hchecked
    · next st₁ heq =>
        rw [heq] at hchecked horderly
        have hserved : Steady (if st₁.session.items.userId.isSome then
            st₁.log (.served st₁.session.sid st₁.clock) else st₁) := by
          split
          · exact hchecked.log trivial
          · exact hchecked
        dsimp only
        unfold State.handle
        split
        · exact hserved
        · next hexempt =>
            refine hserved.actions visit (horderly _ ?_)
            rw [if_neg (by simp [hbefore, hexempt])]
            rfl

/-- The record of the session, added when there is none. -/
theorem Steady.addRecord (h : Steady st) {r : Record} (hsid : r.sid = st.session.sid)
    (huser : r.userId = none) (hpayload : r.payload = none)
    (hnew : ∀ r' ∈ st.pending, r'.sid ≠ st.session.sid) :
    Steady { st with pending := st.pending ++ [r] } where
  logins := h.logins
  committed := h.committed
  pending := by
    refine h.pending.append (hsid ▸ hnew) (hsid ▸ h.opened) hpayload ?_
    intro user hmem
    rw [huser] at hmem
    cases hmem
  opened := h.opened
  unsigned := h.unsigned
  recent user hmem := by
    obtain ⟨a, horigin, hlatest⟩ := h.recent user hmem
    refine ⟨a, horigin, fun r' hr' hcolumn => ?_⟩
    rcases List.mem_append.mp hr' with hr' | hr'
    · exact hlatest r' hr' hcolumn
    · rw [List.mem_singleton.mp hr', huser] at hcolumn
      cases hcolumn
  known := h.known
  own user hmem r' hr' hlive := by
    rcases List.mem_append.mp hr' with hr' | hr'
    · exact h.own user hmem r' hr' hlive
    · rw [List.mem_singleton.mp hr'] at hlive
      exact absurd hlive (not_live_of_payload hpayload)

theorem Steady.saveRecord (h : Steady st) (visit : Visit) :
    Steady (st.setPending fun r =>
      if r.sid = st.session.sid then st.saveRecord cfg visit r else r) := by
  refine h.claim fun r hr hsid => ⟨hsid, fun i hi => ?_, fun user huser => ?_, fun user huser => ?_⟩
  · cases hi
    exact ⟨rfl, h.unsigned⟩
  · show st.session.items.principal = some user
    unfold Items.principal
    rw [show st.session.items.userId = some user from huser]
    rfl
  · have hprincipal : st.session.items.principal = some user := huser
    unfold Items.principal at hprincipal
    cases hown : st.session.items.userId with
    | some user' =>
        rw [hown] at hprincipal
        exact .inl hprincipal
    | none =>
        rw [hown] at hprincipal
        exact .inr (h.unsigned (Option.isSome_of_mem hprincipal))

theorem Tables.commitQuietly (h : Tables st) (visit : Visit) : Tables (st.commitQuietly visit) := by
  unfold State.commitQuietly
  split
  · exact h.commit
  · exact h.rollback

theorem Tables.logFlag (h : Tables st) (visit : Visit) : Tables (st.logFlag visit) := by
  unfold State.logFlag
  split
  · exact h.log trivial
  · exact h

theorem Tables.setCookie (h : Tables st) (visit : Visit) (cookie : Option ℕ) :
    Tables (st.setCookie visit cookie) := by
  unfold State.setCookie
  split
  · exact h
  · exact ⟨h.logins, h.committed, h.pending⟩

theorem Steady.saveSession (h : Steady st) (cfg : Config) (visit : Visit) :
    Tables (st.saveSession cfg visit) := by
  unfold State.saveSession
  split
  · split
    · exact ((h.toTables.endSessions _ .ended).commitQuietly visit).setCookie visit none
    · exact h.toTables
  · have hpermanent : Steady (st.update State.permanent) := by
      refine h.update (narrows_of_eq ?_ ?_)
      · unfold State.permanent
        split <;> rfl
      · unfold State.permanent
        split <;> rfl
    have hsaved : ∀ st' : State, Steady st' → Tables (State.setCookie visit (some st'.session.sid)
        (((st'.setPending fun r => if r.sid = st'.session.sid then st'.saveRecord cfg visit r
          else r).commitQuietly visit).logFlag visit)) := fun st' h' =>
      (((h'.saveRecord visit).toTables.commitQuietly visit).logFlag visit).setCookie visit _
    dsimp only
    split
    · exact hsaved _ hpermanent
    · next hnone =>
        refine hsaved _ (hpermanent.addRecord rfl rfl rfl fun r hr hsid => hnone ?_)
        exact List.find?_isSome.mpr ⟨r, hr, by simpa using hsid⟩

/-- Between two requests nothing is pending. -/
structure Rest (st : State) : Prop extends Tables st where
  rest : st.pending = st.records

theorem Rest.serve (h : Rest st) {visit : Visit} {actions : List Action}
    (horderly : ∀ st' ∈ ((st.openSession visit).wait visit.untilHook).handlerState cfg visit,
      Orderly cfg visit st' actions) : Rest (st.serve cfg visit actions) := by
  have hopened := (h.toTables.openSession h.rest visit).wait visit.untilHook
  have hsaved := ((hopened.dispatch horderly).wait visit.untilSave).saveSession cfg visit
  have hfinished := hsaved.rollback
  unfold State.serve State.finish
  dsimp only
  split
  · exact ⟨hfinished, rfl⟩
  · exact ⟨hfinished.log trivial, rfl⟩

theorem Rest.turn (h : Rest st) {turn : Turn} (horderly : turn.Orderly cfg st) :
    Rest (turn.run cfg st) := by
  cases turn with
  | request cookie visit actions =>
      have hcookie : Rest { st with cookie := cookie } :=
        ⟨⟨h.logins, h.committed, h.pending⟩, h.rest⟩
      exact hcookie.serve horderly
  | wait microseconds => exact ⟨h.toTables.wait microseconds, h.rest⟩
  | endSessions p reason => exact ⟨(h.toTables.endSessions p reason).commit, rfl⟩

theorem rows_nil (history : List Event) (clock : ℤ) (nextSid : ℕ) :
    Rows history clock nextSid [] where
  distinct := List.nodup_nil
  numbered _ hr := nomatch hr
  columns _ hr := nomatch hr
  unsigned _ hr := nomatch hr
  unique _ _ hr := nomatch hr
  latest _ _ hr := nomatch hr

theorem rest_of_turns (h : Turns cfg st) : Rest st := by
  induction h with
  | @start st hinit =>
      have hlogins : Logins st.history st.clock st.nextSid := by
        rw [hinit.history]
        exact ⟨nofun, nofun, nofun⟩
      have hrows := rows_nil st.history st.clock st.nextSid
      refine ⟨⟨hlogins, ?_, ?_⟩, hinit.pending.trans hinit.records.symm⟩
      · rw [hinit.records]
        exact hrows
      · rw [hinit.pending]
        exact hrows
  | turn _ horderly ih => exact ih.turn horderly

end Requests

/-! ### Runs -/

theorem length_le_one {rows : List Record} (h : (rows.map Record.sid).Nodup) {p : Record → Bool}
    (hsame : ∀ r ∈ rows, ∀ r' ∈ rows, p r → p r' → r.sid = r'.sid) :
    (rows.filter p).length ≤ 1 := by
  have hnodup : ((rows.filter p).map Record.sid).Nodup := h.sublist ((rows.filter_sublist).map _)
  cases hfilter : rows.filter p with
  | nil => exact Nat.zero_le 1
  | cons r rest =>
      cases rest with
      | nil => exact le_rfl
      | cons r' rest =>
          have hr : r ∈ rows.filter p := by simp [hfilter]
          have hr' : r' ∈ rows.filter p := by simp [hfilter]
          obtain ⟨hr, hp⟩ := List.mem_filter.mp hr
          obtain ⟨hr', hp'⟩ := List.mem_filter.mp hr'
          rw [hfilter] at hnodup
          simp [hsame r hr r' hr' hp hp'] at hnodup

/-- After every request at most one record of a user is live, and its session goes back
to the latest authentication of the user. -/
theorem one_live_session {cfg : Config} {st : State} (h : Turns cfg st) (user : ℕ) :
    (st.records.filter (live user st.clock)).length ≤ 1 ∧
      ∀ r ∈ st.records, live user st.clock r → Latest st.history st.records user r.sid := by
  have hrows := (rest_of_turns h).committed
  exact ⟨length_le_one hrows.distinct (hrows.unique user), hrows.latest user⟩

/-! ### Samples -/

def afterTurns (cfg : Config) (turns : List Turn) : State := turns.foldl (Turn.run cfg) noSessions

def signIn (cookie : Option ℕ) : Turn :=
  .request cookie plainVisit
    [.establishAuthenticatedSession 7 true "password+totp", .auditEvent true]

theorem orderly_signIn (cookie : Option ℕ) (st : State) :
    (signIn cookie).Orderly customerConfig st := fun _ _ => ⟨trivial, nofun, trivial⟩

/-- A step-up in the session 4. -/
def stepUp : Turn :=
  .request (some 4) plainVisit [.rotateAuthenticatedSessionAfterMfa 7, .auditEvent true]

theorem orderly_stepUp :
    stepUp.Orderly customerConfig (afterTurns customerConfig [signIn none, signIn none]) := by
  intro st hst
  have hown : ((State.openSession plainVisit { afterTurns customerConfig [signIn none, signIn none]
      with cookie := some 4 }).wait plainVisit.untilHook |>.handlerState customerConfig
        plainVisit).all (fun st => st.session.items.userId = some 7) = true := by decide +kernel
  rw [show State.handlerState _ _ _ = some st from hst] at hown
  exact ⟨of_decide_eq_true (p := st.session.items.userId = some 7) hown, nofun, trivial⟩

/-- The user signs in with two browsers, and steps up with the second. -/
def steppedUpTurns : List Turn := [signIn none, signIn none, stepUp]

theorem one_live_session_stepped_up :
    ((afterTurns customerConfig steppedUpTurns).records.filter
        (live 7 (afterTurns customerConfig steppedUpTurns).clock)).map Record.sid = [5] ∧
      ((afterTurns customerConfig steppedUpTurns).records.filter
        (live 7 (afterTurns customerConfig steppedUpTurns).clock)).length ≤ 1 ∧
      ∀ r ∈ (afterTurns customerConfig steppedUpTurns).records,
        live 7 (afterTurns customerConfig steppedUpTurns).clock r →
        Latest (afterTurns customerConfig steppedUpTurns).history
          (afterTurns customerConfig steppedUpTurns).records 7 r.sid := by
  have hturns : Turns customerConfig (afterTurns customerConfig steppedUpTurns) :=
    .turn (.turn (.turn (.start initial_noSessions) (orderly_signIn none _))
      (orderly_signIn none _)) orderly_stepUp
  exact ⟨by decide +kernel, one_live_session hturns 7⟩

/-- Payee lookups are rate limited after the step-up, and the limit rolls back. -/
def refusedLookup : List Turn :=
  [signIn none, .request (some 2) plainVisit
    [.requireStableSessionForSensitiveAction true, .auditEvent true,
      .rotateAuthenticatedSessionAfterMfa 7, .rollback, .auditEvent true]]

/-- The old record is back, and the session is saved under its new id. -/
theorem rotation_rolled_back_live_twice :
    ((afterTurns customerConfig refusedLookup).records.filter
        (live 7 (afterTurns customerConfig refusedLookup).clock)).map Record.sid = [2, 3] ∧
      ¬((afterTurns customerConfig refusedLookup).records.filter
        (live 7 (afterTurns customerConfig refusedLookup).clock)).length ≤ 1 := by
  have hlive : ((afterTurns customerConfig refusedLookup).records.filter
      (live 7 (afterTurns customerConfig refusedLookup).clock)).map Record.sid = [2, 3] := by
    decide +kernel
  refine ⟨hlive, fun hle => ?_⟩
  have hlength := congrArg List.length hlive
  rw [List.length_map] at hlength
  rw [hlength] at hle
  exact absurd hle (by decide)

end SitBank.Browser
