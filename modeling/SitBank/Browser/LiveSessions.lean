import SitBank.Browser.SessionRows

/-!
Live sessions (`app/security/sessions.py`), over the requests of all browsers, one after
the other.

A request presents any cookie. Within a component the records of a user are ended
when the user is authenticated anew, and a rotation ends the record it replaces.
Both are part of the request's transaction, while the browser session is not: a
rollback brings the old record back, and the session is saved under its new id all
the same. The statement about runs is therefore about requests that roll back only
while no other live session of their user is committed.
-/

namespace SitBank.Browser

open SitBank.Sessions (EndReason)

/-- No other live session of the user of the open session is committed. -/
def State.Settled (st : State) : Prop :=
  ∀ user ∈ st.session.items.userId, ∀ r ∈ st.records, live user st.clock r → r.sid = st.session.sid

/-- What a step of a handler may meet. A session is rotated after MFA for its own
user, as the callers check. -/
def Action.Orderly (st : State) : Action → Prop
  | .rollback => st.Settled
  | .auditEvent written => written = false → st.Settled
  | .requireStableSessionForSensitiveAction written => written = false → st.Settled
  | .rotateAuthenticatedSessionAfterMfa user => st.session.items.userId = some user
  | _ => True

def Orderly (cfg : Config) (visit : Visit) : State → List Action → Prop
  | _, [] => True
  | st, a :: actions => a.Orderly st ∧ Orderly cfg visit (a.run cfg visit st) actions

/-- The state in which the handler of a request starts, if it does. -/
def State.handlerState (cfg : Config) (visit : Visit) (st : State) : Option State :=
  if visit.answeredBefore || visit.activityExempt then none
  else match st.enforceSessionActivity cfg visit with
    | (_, true) => none
    | (st, false) =>
        some (if st.session.items.userId.isSome then st.log (.served st.session.sid st.clock)
          else st)

/-- A request of some browser, or what happens between the requests of this component:
time passes, and the administration ends sessions. -/
inductive Turn
  | request (cookie : Option ℕ) (visit : Visit) (actions : List Action)
  | wait (microseconds : ℕ)
  | endSessions (p : Record → Bool) (reason : EndReason)

def Turn.run (cfg : Config) (st : State) : Turn → State
  | .request cookie visit actions => State.serve cfg visit actions { st with cookie := cookie }
  | .wait microseconds => st.wait microseconds
  | .endSessions p reason => (st.endSessions p reason).commit

/-- The steps of the handler are orderly. -/
def Turn.Orderly (cfg : Config) (st : State) : Turn → Prop
  | .request cookie visit actions =>
      ∀ st' ∈ ((State.openSession visit { st with cookie := cookie }).wait
        visit.untilHook).handlerState cfg visit, Browser.Orderly cfg visit st' actions
  | .wait _ => True
  | .endSessions _ _ => True

inductive Turns (cfg : Config) : State → Prop
  | start {st : State} : Initial st → Turns cfg st
  | turn {st : State} {turn : Turn} : Turns cfg st → turn.Orderly cfg st →
      Turns cfg (turn.run cfg st)

/-! ### Steps -/

structure Tables (st : State) : Prop where
  logins : Logins st.history st.clock st.nextSid
  committed : Rows st.history st.clock st.nextSid st.records
  pending : Rows st.history st.clock st.nextSid st.pending

/-- The invariant within a request. -/
structure Steady (st : State) : Prop extends Tables st where
  opened : st.session.sid < st.nextSid
  unsigned : st.session.items.pendingMfaUserId.isSome →
    ∀ a, .authenticated st.session.sid a ∉ st.history
  recent : ∀ user ∈ st.session.items.userId, Latest st.history st.pending user st.session.sid
  known : ∀ user ∈ st.session.items.userId, Latest st.history st.records user st.session.sid
  own : ∀ user ∈ st.session.items.userId, ∀ r ∈ st.pending, live user st.clock r →
    r.sid = st.session.sid

section Steps

variable {st : State}

theorem Tables.commit (h : Tables st) : Tables st.commit := ⟨h.logins, h.pending, h.pending⟩

theorem Tables.rollback (h : Tables st) : Tables st.rollback := ⟨h.logins, h.committed, h.committed⟩

theorem Tables.auditEvent (h : Tables st) (written : Bool) : Tables (st.auditEvent written) := by
  unfold State.auditEvent
  split
  · exact h.commit
  · exact h.rollback

theorem Logins.later {history : List Event} {clock clock' : ℤ} {nextSid : ℕ}
    (h : Logins history clock nextSid) (hle : clock ≤ clock') : Logins history clock' nextSid :=
  ⟨fun sid a ha => (h.past sid a ha).trans hle, h.numbered, h.direct⟩

theorem clock_le_wait (st : State) (microseconds : ℕ) :
    st.clock ≤ (st.wait microseconds).clock := by
  show st.clock ≤ st.clock + microseconds
  omega

theorem Tables.wait (h : Tables st) (microseconds : ℕ) : Tables (st.wait microseconds) :=
  have hle := clock_le_wait st microseconds
  ⟨h.logins.later hle, h.committed.later hle, h.pending.later hle⟩

theorem Tables.fade (h : Tables st) {f : Record → Record} (hf : ∀ r, Fades r (f r)) :
    Tables (st.setPending f) := ⟨h.logins, h.committed, h.pending.fade fun r _ => hf r⟩

theorem fades_endSessions (p : Record → Bool) (reason : EndReason) (r : Record) :
    Fades r (if p r then State.endSessionRecord reason r else r) := by
  split
  · exact fades_endSessionRecord reason r
  · exact .refl r

theorem Tables.endSessions (h : Tables st) (p : Record → Bool) (reason : EndReason) :
    Tables (st.endSessions p reason) := h.fade (fades_endSessions p reason)

theorem Steady.commit (h : Steady st) : Steady st.commit :=
  ⟨h.toTables.commit, h.opened, h.unsigned, h.recent, h.recent, h.own⟩

theorem Steady.rollback (h : Steady st) (hsettled : st.Settled) : Steady st.rollback :=
  ⟨h.toTables.rollback, h.opened, h.unsigned, h.known, h.known, hsettled⟩

theorem Steady.auditEvent (h : Steady st) {written : Bool}
    (hsettled : written = false → st.Settled) : Steady (st.auditEvent written) := by
  unfold State.auditEvent
  split
  · exact h.commit
  · next hlost => exact h.rollback (hsettled (by simpa using hlost))

theorem Steady.wait (h : Steady st) (microseconds : ℕ) : Steady (st.wait microseconds) where
  toTables := h.toTables.wait microseconds
  opened := h.opened
  unsigned := h.unsigned
  recent := h.recent
  known := h.known
  own user huser r hr hlive :=
    h.own user huser r hr (live_later (clock_le_wait st microseconds) hlive)

theorem Steady.fade (h : Steady st) {f : Record → Record} (hf : ∀ r, Fades r (f r)) :
    Steady (st.setPending f) where
  toTables := h.toTables.fade hf
  opened := h.opened
  unsigned := h.unsigned
  recent user huser := (h.recent user huser).fade fun r _ => hf r
  known := h.known
  own user huser r hr hlive := by
    obtain ⟨r₀, hr₀, rfl⟩ := List.mem_map.mp hr
    rw [(hf r₀).sid]
    exact h.own user huser r₀ hr₀ ((hf r₀).live _ _ hlive)

theorem Steady.endSessions (h : Steady st) (p : Record → Bool) (reason : EndReason) :
    Steady (st.endSessions p reason) := h.fade (fades_endSessions p reason)

/-- No user comes in. -/
structure Narrows (items items' : Items) : Prop where
  userId : ∀ user ∈ items'.userId, user ∈ items.userId
  pendingMfaUserId : items'.pendingMfaUserId.isSome → items.pendingMfaUserId.isSome

theorem narrows_of_eq {items items' : Items} (huser : items'.userId = items.userId)
    (hpending : items'.pendingMfaUserId = items.pendingMfaUserId) : Narrows items items' where
  userId user h := by
    rw [← huser]
    exact h
  pendingMfaUserId h := by
    rw [← hpending]
    exact h

theorem Steady.update (h : Steady st) {f : Items → Items}
    (hf : Narrows st.session.items (f st.session.items)) : Steady (st.update f) where
  toTables := ⟨h.logins, h.committed, h.pending⟩
  opened := h.opened
  unsigned hpending := h.unsigned (hf.pendingMfaUserId hpending)
  recent user huser := h.recent user (hf.userId user huser)
  known user huser := h.known user (hf.userId user huser)
  own user huser := h.own user (hf.userId user huser)

theorem Steady.clear (h : Steady st) : Steady st.clear := h.update ⟨nofun, nofun⟩

theorem Steady.revokeCurrentSession (h : Steady st) (reason : EndReason) :
    Steady (st.revokeCurrentSession reason) := (h.endSessions _ reason).clear

theorem Logins.extend {history history' : List Event} {clock : ℤ} {nextSid nextSid' : ℕ}
    (h : Logins history clock nextSid) (hnext : nextSid ≤ nextSid')
    (horigin : ∀ sid, sid < nextSid → origin sid history' = origin sid history)
    (hsigned : ∀ sid a, .authenticated sid a ∈ history' → .authenticated sid a ∈ history) :
    Logins history' clock nextSid' where
  past sid a ha := h.past sid a (hsigned sid a ha)
  numbered sid a ha := (h.numbered sid a (hsigned sid a ha)).trans_le hnext
  direct sid a ha := by
    have ha := hsigned sid a ha
    rw [horigin sid (h.numbered sid a ha)]
    exact h.direct sid a ha

theorem Tables.extend (h : Tables st) {st' : State} (hclock : st'.clock = st.clock)
    (hrecords : st'.records = st.records) (hpending : st'.pending = st.pending)
    (hnext : st.nextSid ≤ st'.nextSid)
    (horigin : ∀ sid, sid < st.nextSid → origin sid st'.history = origin sid st.history)
    (hsigned : ∀ sid a, .authenticated sid a ∈ st'.history → .authenticated sid a ∈ st.history) :
    Tables st' := by
  have hlogins := h.logins.extend hnext horigin hsigned
  have hcommitted := h.committed.extend hnext (fun r hr => horigin _ (h.committed.numbered r hr))
    fun r _ => hsigned r.sid
  have hpending' := h.pending.extend hnext (fun r hr => horigin _ (h.pending.numbered r hr))
    fun r _ => hsigned r.sid
  rw [← hclock] at hlogins hcommitted hpending'
  rw [← hrecords] at hcommitted
  rw [← hpending] at hpending'
  exact ⟨hlogins, hcommitted, hpending'⟩

/-- An event that is no authentication and no rotation. -/
def Event.Plain : Event → Prop
  | .authenticated _ _ => False
  | .rotated _ _ => False
  | _ => True

theorem Event.Plain.origin {e : Event} (he : e.Plain) (sid : ℕ) (history : List Event) :
    Browser.origin sid (e :: history) = Browser.origin sid history := by
  cases e with
  | authenticated => exact he.elim
  | rotated => exact he.elim
  | request => rfl
  | served => rfl
  | stable => rfl
  | flagged => rfl

theorem Event.Plain.signed {e : Event} (he : e.Plain) {sid : ℕ} {a : ℤ} {history : List Event}
    (h : .authenticated sid a ∈ e :: history) : .authenticated sid a ∈ history := by
  rcases List.mem_cons.mp h with rfl | h
  · exact he.elim
  · exact h

theorem Tables.log (h : Tables st) {e : Event} (he : e.Plain) : Tables (st.log e) :=
  h.extend rfl rfl rfl le_rfl (fun sid _ => he.origin sid _) fun _ _ => he.signed

theorem Steady.log (h : Steady st) {e : Event} (he : e.Plain) : Steady (st.log e) where
  toTables := h.toTables.log he
  opened := h.opened
  unsigned hpending a ha := h.unsigned hpending a (he.signed ha)
  recent user huser := (h.recent user huser).extend (he.origin _ _) fun _ _ _ => he.signed
  known user huser := (h.known user huser).extend (he.origin _ _) fun _ _ _ => he.signed
  own := h.own

theorem Tables.newSession (h : Tables st) : Steady st.newSession where
  toTables := h.extend rfl rfl rfl (Nat.le_succ _) (fun _ _ => rfl) fun _ _ ha => ha
  opened := Nat.lt_succ_self _
  unsigned := nofun
  recent := nofun
  known := nofun
  own := nofun

theorem signed_of_rotated {sid old new : ℕ} {a : ℤ} {history : List Event}
    (h : .authenticated sid a ∈ Event.rotated old new :: history) :
    .authenticated sid a ∈ history := by
  rcases List.mem_cons.mp h with h | h
  · cases h
  · exact h

theorem Tables.regenerate (h : Tables st) : Tables st.regenerate :=
  (h.endSessions (fun r => r.sid = st.session.sid) .rotated).extend rfl rfl rfl (Nat.le_succ _)
    (fun _ hlt => origin_rotated (Nat.ne_of_lt hlt)) fun _ _ => signed_of_rotated

theorem origin_new (old new : ℕ) (history : List Event) :
    origin new (.rotated old new :: history) = origin old history := if_pos rfl

/-- The rotated session has the origin of the old one, whose record has ended. -/
theorem Steady.regenerate (h : Steady st) : Steady st.regenerate where
  toTables := h.toTables.regenerate
  opened := Nat.lt_succ_self _
  unsigned hpending a ha := by
    have hlt := h.logins.numbered _ a (signed_of_rotated ha)
    exact absurd hlt (Nat.lt_irrefl _)
  recent user huser := by
    obtain ⟨a, horigin, hlatest⟩ := (h.recent user huser).fade fun r _ =>
      fades_endSessions (fun r => r.sid = st.session.sid) .rotated r
    exact ⟨a, (origin_new _ _ _).trans horigin, fun r hr hcolumn a' ha' =>
      hlatest r hr hcolumn a' (signed_of_rotated ha')⟩
  known user huser := by
    obtain ⟨a, horigin, hlatest⟩ := h.known user huser
    exact ⟨a, (origin_new _ _ _).trans horigin, fun r hr hcolumn a' ha' =>
      hlatest r hr hcolumn a' (signed_of_rotated ha')⟩
  own user huser r hr hlive := by
    obtain ⟨r₀, hr₀, rfl⟩ := List.mem_map.mp hr
    dsimp only at hlive
    split at hlive
    · exact absurd hlive (not_live_endSessionRecord .rotated r₀)
    · next hne => exact absurd (h.own user huser r₀ hr₀ hlive) (by simpa using hne)

theorem Steady.rotateSessionId (h : Steady st) : Steady st.rotateSessionId := by
  unfold State.rotateSessionId
  split
  · exact h
  · exact h.regenerate

end Steps

/-! ### The hook -/

section Hook

variable {cfg : Config} {st : State}

/-- The stored entries of the open session have its user. -/
def Mirrored (st : State) (rows : List Record) : Prop :=
  ∀ r ∈ rows, r.sid = st.session.sid → ∀ items ∈ r.payload,
    items.userId = st.session.items.userId

/-- The invariant until the hook has passed: nothing has happened to the session. -/
structure Hooked (st : State) : Prop extends Steady st where
  settled : st.Settled
  mirrored : Mirrored st st.pending
  stored : Mirrored st st.records

theorem Hooked.wait (h : Hooked st) (microseconds : ℕ) : Hooked (st.wait microseconds) where
  toSteady := h.toSteady.wait microseconds
  settled user huser r hr hlive :=
    h.settled user huser r hr (live_later (clock_le_wait st microseconds) hlive)
  mirrored := h.mirrored
  stored := h.stored

theorem Hooked.auditEvent (h : Hooked st) (written : Bool) : Hooked (st.auditEvent written) := by
  have hsteady := h.toSteady.auditEvent fun _ : written = false => h.settled
  cases written with
  | true => exact ⟨hsteady, h.own, h.mirrored, h.mirrored⟩
  | false => exact ⟨hsteady, h.settled, h.stored, h.stored⟩

theorem Hooked.update (h : Hooked st) {f : Items → Items}
    (huser : (f st.session.items).userId = st.session.items.userId)
    (hpending : (f st.session.items).pendingMfaUserId = st.session.items.pendingMfaUserId) :
    Hooked (st.update f) where
  toSteady := h.toSteady.update (narrows_of_eq huser hpending)
  settled user hmem := h.settled user (huser ▸ hmem)
  mirrored r hr hsid items hitems := (h.mirrored r hr hsid items hitems).trans huser.symm
  stored r hr hsid items hitems := (h.stored r hr hsid items hitems).trans huser.symm

/-- A new session has no record. -/
theorem Tables.newHooked (h : Tables st) : Hooked st.newSession := by
  have hnumbered : ∀ r, r ∈ st.records ∨ r ∈ st.pending → r.sid ≠ st.nextSid := by
    rintro r (hr | hr)
    · exact Nat.ne_of_lt (h.committed.numbered r hr)
    · exact Nat.ne_of_lt (h.pending.numbered r hr)
  exact ⟨h.newSession, nofun, fun r hr hsid => absurd hsid (hnumbered r (.inr hr)),
    fun r hr hsid => absurd hsid (hnumbered r (.inl hr))⟩

theorem fades_touch (sid : ℕ) (clock : ℤ) (r : Record) :
    Fades r (if r.sid = sid then { r with lastActivityAt := clock } else r) := by
  split
  · exact ⟨rfl, rfl, fun _ h => h, fun _ _ h => h⟩
  · exact .refl r

/-- The session of a record that passed every check of its opening. -/
theorem Tables.open (h : Tables st) (hrest : st.pending = st.records) {r : Record}
    (hr : r ∈ st.pending) {items : Items} (hitems : r.payload = some items)
    (hended : r.ended = none)
    (hexpires : st.clock < r.expiresAt) {modified : Bool} :
    Hooked { st with session := ⟨r.sid, items, modified⟩ } := by
  have hlive : ∀ user ∈ items.userId, live user st.clock r := fun user huser =>
    live_iff.mpr ⟨h.pending.columns r hr items hitems user huser, hended, hexpires, items, hitems,
      huser⟩
  have hown : ∀ user ∈ items.userId, ∀ r' ∈ st.pending, live user st.clock r' → r'.sid = r.sid :=
    fun user huser r' hr' hlive' => h.pending.unique user r' hr' r hr hlive' (hlive user huser)
  have hlatest : ∀ user ∈ items.userId, Latest st.history st.pending user r.sid :=
    fun user huser => h.pending.latest user r hr (hlive user huser)
  have hmirrored : ∀ r' ∈ st.pending, r'.sid = r.sid →
      ∀ i ∈ r'.payload, i.userId = items.userId := by
    intro r' hr' hsid i hi
    rw [List.inj_on_of_nodup_map h.pending.distinct hr' hr hsid, hitems] at hi
    cases hi
    rfl
  exact {
    toTables := ⟨h.logins, h.committed, h.pending⟩
    opened := h.pending.numbered r hr
    unsigned := h.pending.unsigned r hr items hitems
    recent := hlatest
    known := hrest ▸ hlatest
    own := hown
    settled := hrest ▸ hown
    mirrored := hmirrored
    stored := hrest ▸ hmirrored }

theorem Hooked.touch (h : Hooked st) (sid : ℕ) : Hooked (st.setPending fun r =>
    if r.sid = sid then { r with lastActivityAt := st.clock } else r) where
  toSteady := h.toSteady.fade (fades_touch sid st.clock)
  settled := h.settled
  mirrored r hr hsid items hitems := by
    obtain ⟨r₀, hr₀, rfl⟩ := List.mem_map.mp hr
    have hfades := fades_touch sid st.clock r₀
    rw [hfades.sid] at hsid
    exact h.mirrored r₀ hr₀ hsid items (hfades.payload items hitems)
  stored := h.stored

theorem Tables.openRecord (h : Tables st) (hrest : st.pending = st.records) (visit : Visit)
    {r : Record} (hr : r ∈ st.pending) : Hooked (st.openRecord visit r) := by
  unfold State.openRecord
  split
  · exact h.newHooked
  next hended =>
    split
    · exact (h.endSessions _ .expired).commit.newHooked
    next hexpires =>
      split
      · exact (h.endSessions _ .ended).commit.newHooked
      next items hitems =>
        split
        · exact ((h.endSessions _ .integrityFailure).auditEvent visit.auditWritten).newHooked
        · have hopen : ∀ modified, Hooked { st with session := ⟨r.sid, items, modified⟩ } :=
            fun modified => h.open hrest hr hitems (by simpa using hended) (by omega)
          dsimp only
          split
          · exact hopen false
          · exact (hopen false).touch r.sid

theorem Tables.openSession (h : Tables st) (hrest : st.pending = st.records) (visit : Visit) :
    Hooked (st.openSession visit) := by
  unfold State.openSession
  split
  · exact h.newHooked
  · next r hr =>
      obtain ⟨sid, -, hfind⟩ := Option.bind_eq_some_iff.mp hr
      exact h.openRecord hrest visit (List.mem_of_find?_eq_some hfind)

/-- The record of the session is written. -/
theorem Steady.claim (h : Steady st) {f : Record → Record}
    (hf : ∀ r ∈ st.pending, r.sid = st.session.sid →
      Claimed st.history st.session.sid st.session.items (f r)) :
    Steady (st.setPending fun r => if r.sid = st.session.sid then f r else r) where
  toTables := ⟨h.logins, h.committed, h.pending.claim h.logins hf h.recent h.own⟩
  opened := h.opened
  unsigned := h.unsigned
  recent user huser := (h.recent user huser).claim h.logins hf fun _ => rfl
  known := h.known
  own user huser r hr hlive := by
    obtain ⟨r₀, hr₀, rfl⟩ := List.mem_map.mp hr
    by_cases heq : r₀.sid = st.session.sid
    · rw [if_pos heq]
      exact (hf r₀ hr₀ heq).same
    · rw [if_neg heq] at hlive ⊢
      exact h.own user huser r₀ hr₀ hlive

theorem Hooked.updateSessionActivity (h : Hooked st) :
    Steady (st.updateSessionActivity cfg) := by
  unfold State.updateSessionActivity
  split
  · exact h.toSteady
  · next user huser =>
      refine h.toSteady.claim fun r hr hsid => ⟨hsid, fun i hi => ?_, fun user' huser' => ?_,
        fun user' huser' => .inl ?_⟩
      · refine ⟨h.mirrored r hr hsid i hi, fun hpending => ?_⟩
        rw [← hsid]
        exact h.toSteady.pending.unsigned r hr i hi hpending
      · rw [huser] at huser'
        exact huser'
      · rw [huser]
        exact huser'

theorem touchRisk_pending (visit : Visit) (now : ℤ) (items : Items) :
    (touchSessionRiskContext cfg visit now items).pendingMfaUserId = items.pendingMfaUserId := by
  unfold touchSessionRiskContext
  split
  · rfl
  · split <;> rfl

theorem Hooked.touchRisk (h : Hooked st) (visit : Visit) (now : ℤ) :
    Hooked (st.update (touchSessionRiskContext cfg visit now)) :=
  h.update (touchRisk_userId visit now _) (touchRisk_pending visit now _)

/-- A request that is answered by the hook, or goes on with its session. -/
def Checked (result : State × Bool) : Prop :=
  if result.2 then Steady result.1 else Hooked result.1

theorem Hooked.enforceAuthenticatedSessionContext (h : Hooked st) (visit : Visit) :
    Checked (st.enforceAuthenticatedSessionContext cfg visit) := by
  unfold State.enforceAuthenticatedSessionContext
  split
  · exact h
  split
  · exact h.touchRisk visit st.now
  · exact (h.auditEvent visit.auditWritten).update rfl rfl
  · have hflagged : ∀ st' : State, Hooked st' → Hooked (st'.update fun items =>
        touchSessionRiskContext cfg visit st'.now { items with riskReauthRequired := true }) :=
      fun st' h' => h'.update (touchRisk_userId visit _ _) (touchRisk_pending visit _ _)
    dsimp only
    split
    · exact hflagged st h
    · exact hflagged _ (h.auditEvent visit.auditWritten)
  · exact (h.auditEvent visit.auditWritten).toSteady.revokeCurrentSession .riskChange

theorem Hooked.touchSession (h : Hooked st) (visit : Visit) :
    Steady (st.touchSession cfg visit).1 := by
  have hcontext : Checked (st.enforceAuthenticatedSessionContext cfg visit) :=
    h.enforceAuthenticatedSessionContext visit
  unfold State.touchSession
  split
  · next st₁ heq =>
      rw [heq] at hcontext
      exact hcontext
  · next st₁ heq =>
      rw [heq] at hcontext
      have hgoes : Hooked st₁ := hcontext
      split
      · exact hgoes.toSteady
      · exact (hgoes.update (f := fun items => { items with lastActivityAt := some st₁.now }) rfl
          rfl).updateSessionActivity

theorem Steady.pendingMfaExpiryResponse (h : Hooked st) (visit : Visit) :
    Steady (st.pendingMfaExpiryResponse visit) := by
  have hrevoked := h.toSteady.revokeCurrentSession .expired
  have hevent : Steady ((st.revokeCurrentSession .expired).auditEvent visit.auditWritten) :=
    hrevoked.auditEvent fun _ => nofun
  unfold State.pendingMfaExpiryResponse
  dsimp only
  split
  · exact hevent
  · exact (hevent.update (narrows_of_eq rfl rfl)).rotateSessionId

theorem Hooked.enforceSessionLifetime (h : Hooked st) (visit : Visit) :
    Steady (st.enforceSessionLifetime cfg visit).1 := by
  unfold State.enforceSessionLifetime
  dsimp only
  split
  · exact h.toSteady
  split
  · exact .pendingMfaExpiryResponse h visit
  split
  · exact (h.auditEvent visit.auditWritten).toSteady.revokeCurrentSession .absoluteLifetime
  · have hcreated : Hooked (st.update (withAuthCreatedAt st.now)) := by
      refine h.update ?_ ?_
      · unfold withAuthCreatedAt
        split <;> rfl
      · unfold withAuthCreatedAt
        split <;> rfl
    split
    · exact hcreated.toSteady.revokeCurrentSession .expired
    · exact hcreated.touchSession visit

theorem Hooked.enforceSessionActivity (h : Hooked st) (visit : Visit) :
    Steady (st.enforceSessionActivity cfg visit).1 := by
  unfold State.enforceSessionActivity
  split
  · exact h.toSteady.clear
  · exact h.enforceSessionLifetime visit

end Hook

end SitBank.Browser
