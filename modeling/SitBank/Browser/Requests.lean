import Mathlib.Algebra.Order.Ring.Int
import SitBank.Sessions.Store

/-!
The requests of one browser, one after the other (`app/security/sessions.py`).

A request opens the session of its cookie, runs the before-request hook and a
handler, and saves the session. The store is read and written as in
`Sessions.Store`, here by one request at a time; a transaction that is not
committed is rolled back. The entries of the session that the hook and the risk
checks read are all there, and the names of the others. Session ids are numbers,
handed out in order.

The history is not part of the program: it says what the requests did, newest
first, and the statements about runs are about it.
-/

namespace SitBank.Browser

open SitBank.Sessions (EndReason Severity epochSeconds)

/-! ### Data -/

/-- `risk_context`. -/
structure RiskContext where
  version : ℕ
  ipNetworkHash : String
  userAgentFamilyHash : String
  userAgentHash : String
  lastCheckedAt : ℤ
  deriving DecidableEq, Repr

/-- The entries of a session. A `risk_context` that is no dictionary is none. -/
structure Items where
  userId : Option ℕ
  pendingMfaUserId : Option ℕ
  passwordAuthenticatedAt : Option ℤ
  authContext : String
  authCreatedAt : Option ℤ
  lastActivityAt : Option ℤ
  riskFingerprint : Option String
  riskContext : Option RiskContext
  riskReauthRequired : Bool
  others : List String
  deriving DecidableEq, Repr

def Items.empty : Items := ⟨none, none, none, "", none, none, none, none, false, []⟩

/-- `_session_user_id`. -/
def Items.principal (items : Items) : Option ℕ :=
  items.userId.orElse fun _ => items.pendingMfaUserId

structure DatabaseSession where
  sid : ℕ
  items : Items
  modified : Bool
  deriving DecidableEq, Repr

/-- A `ServerSideSession`; `revoked_at` and `ended_at` are set with its reason. -/
structure Record where
  sid : ℕ
  userId : Option ℕ
  payload : Option Items
  lastActivityAt : ℤ
  expiresAt : ℤ
  ended : Option EndReason
  deriving DecidableEq, Repr

inductive Event
  /-- A full authentication, into the session of this id. -/
  | authenticated (sid : ℕ) (instant : ℤ)
  | rotated (old new : ℕ)
  /-- A request that counts as activity came to its end. -/
  | request (instant : ℤ)
  /-- The hook let a request of an authenticated session through. -/
  | served (sid : ℕ) (instant : ℤ)
  /-- A sensitive action of an authenticated session was let through. -/
  | stable (sid : ℕ)
  /-- An authenticated session was saved that must be authenticated again. -/
  | flagged (sid : ℕ)
  deriving DecidableEq, Repr

structure State where
  clock : ℤ
  /-- The committed records, and those that the transaction sees. -/
  records : List Record
  pending : List Record
  session : DatabaseSession
  nextSid : ℕ
  cookie : Option ℕ
  history : List Event
  deriving DecidableEq, Repr

structure Config where
  adminMode : Bool
  sessionInactivitySeconds : ℤ
  sessionAbsoluteLifetimeSeconds : ℤ
  pendingMfaMaxAgeSeconds : ℤ
  normalizedIpContext : String → String
  normalizedUserAgent : String → String
  userAgentFamily : String → String
  userAgentFingerprint : String → String
  /-- `active_hmac_hex(·, length=32)` and `matches_hmac(·, ·, length=32)`. -/
  activeHmacHex : String → String
  matchesHmac : String → String → Bool

/-- How `_commit_quietly` ends. -/
inductive Saved
  | committed
  | integrity
  | failed
  deriving DecidableEq, Repr

/-- What a request brings along, and what happens to it on the way. -/
structure Visit where
  remoteAddr : String
  userAgent : String
  activityExempt : Bool
  publicEndpoint : Bool
  authPath : Bool
  /-- The stored payload verifies. -/
  intact : Bool
  /-- Another hook answers before the one of the sessions. -/
  answeredBefore : Bool
  /-- Microseconds between opening and the hook, and before saving. -/
  untilHook : ℕ
  untilSave : ℕ
  /-- The audit event of opening or of the hook is committed. -/
  auditWritten : Bool
  saved : Saved
  responseLost : Bool

namespace State

/-! ### Records -/

def record (sid : ℕ) (st : State) : Option Record := st.pending.find? fun r => r.sid = sid

def setPending (f : Record → Record) (st : State) : State := { st with pending := st.pending.map f }

/-- `_end_session_record`. -/
def endSessionRecord (reason : EndReason) (r : Record) : Record :=
  if r.ended.isSome then r else { r with payload := none, ended := some reason }

def endSessions (p : Record → Bool) (reason : EndReason) : State → State :=
  setPending fun r => if p r then endSessionRecord reason r else r

def endSessionId (sid : ℕ) : EndReason → State → State := endSessions fun r => r.sid = sid

def commit (st : State) : State := { st with records := st.pending }

def rollback (st : State) : State := { st with pending := st.records }

/-- `audit_event`: it commits, or rolls back, what its caller left. -/
def auditEvent (written : Bool) (st : State) : State := if written then st.commit else st.rollback

def log (e : Event) (st : State) : State := { st with history := e :: st.history }

def wait (microseconds : ℕ) (st : State) : State := { st with clock := st.clock + microseconds }

def now (st : State) : ℤ := epochSeconds st.clock

def sessionExpiresAt (cfg : Config) (st : State) : ℤ :=
  st.clock + cfg.sessionInactivitySeconds * 1000000

/-! ### The session -/

def update (f : Items → Items) (st : State) : State :=
  { st with session := { st.session with items := f st.session.items, modified := true } }

def clear (st : State) : State := st.update fun _ => .empty

def newSession (st : State) : State :=
  { st with session := ⟨st.nextSid, .empty, false⟩, nextSid := st.nextSid + 1 }

/-- `regenerate`. -/
def regenerate (st : State) : State :=
  let old := st.session.sid
  let st := st.endSessionId old .rotated
  { st with
    session := { st.session with sid := st.nextSid, modified := true }
    nextSid := st.nextSid + 1
    history := .rotated old st.nextSid :: st.history }

def rotateSessionId (st : State) : State :=
  if st.session.items = .empty then st else st.regenerate

/-- `revoke_session` of the session's own id. -/
def ownedBy (user : Option ℕ) (sid : ℕ) (r : Record) : Bool :=
  r.sid = sid && (user.isNone || r.userId.isNone || r.userId = user)

def revokeCurrentSession (reason : EndReason) (st : State) : State :=
  (st.endSessions (ownedBy st.session.items.principal st.session.sid) reason).clear

/-- `open_session`, for a record that is found. -/
def openRecord (visit : Visit) (r : Record) (st : State) : State :=
  if r.ended.isSome then st.newSession
  else if r.expiresAt ≤ st.clock then (st.endSessionId r.sid .expired).commit.newSession
  else match r.payload with
    | none => (st.endSessionId r.sid .ended).commit.newSession
    | some items =>
        if !visit.intact then
          ((st.endSessionId r.sid .integrityFailure).auditEvent visit.auditWritten).newSession
        else
          let st := if visit.activityExempt then st
            else st.setPending fun r' =>
              if r'.sid = r.sid then { r' with lastActivityAt := st.clock } else r'
          { st with session := ⟨r.sid, items, false⟩ }

def openSession (visit : Visit) (st : State) : State :=
  match st.cookie.bind fun sid => st.record sid with
  | none => st.newSession
  | some r => st.openRecord visit r

end State

/-! ### Risk -/

section Risk

variable (cfg : Config) (visit : Visit)

/-- `request.user_agent.string or "unknown"`. -/
def Visit.agent : String := if visit.userAgent = "" then "unknown" else visit.userAgent

def Visit.network : String := cfg.normalizedIpContext visit.remoteAddr

def Visit.normalizedAgent : String := cfg.normalizedUserAgent visit.agent

def Visit.family : String := cfg.userAgentFamily (visit.normalizedAgent cfg)

def riskMessage (label value : String) : String := "session-risk-context:" ++ label ++ ":" ++ value

def riskContextHash (label value : String) : String := cfg.activeHmacHex (riskMessage label value)

def riskContextHashMatches (stored label value : String) : Bool :=
  stored ≠ "" && cfg.matchesHmac stored (riskMessage label value)

def sessionRiskContextVersion : ℕ := 1

def currentSessionRiskContext (now : ℤ) : RiskContext where
  version := sessionRiskContextVersion
  ipNetworkHash := riskContextHash cfg "ip_network" (visit.network cfg)
  userAgentFamilyHash := riskContextHash cfg "user_agent_family" (visit.family cfg)
  userAgentHash := riskContextHash cfg "user_agent" (visit.normalizedAgent cfg)
  lastCheckedAt := now

def currentSessionRiskMessage (items : Items) : String :=
  "|".intercalate [visit.network cfg, cfg.userAgentFingerprint visit.agent, items.authContext]

def currentSessionRiskFingerprint (items : Items) : String :=
  cfg.activeHmacHex (currentSessionRiskMessage cfg visit items)

inductive Signal
  | sessionContext
  | ipNetwork
  | userAgentFamily
  | userAgent
  deriving DecidableEq, Repr

/-- `_session_risk_context_changes`, in a fixed order. -/
def sessionRiskContextChanges (items : Items) : List Signal :=
  match items.riskContext with
  | none => [.sessionContext]
  | some stored =>
      if stored.version ≠ sessionRiskContextVersion then [.sessionContext]
      else
        (if riskContextHashMatches cfg stored.ipNetworkHash "ip_network" (visit.network cfg) then []
          else [.ipNetwork]) ++
        (if riskContextHashMatches cfg stored.userAgentFamilyHash "user_agent_family"
            (visit.family cfg) then []
          else [.userAgentFamily]) ++
        (if riskContextHashMatches cfg stored.userAgentHash "user_agent"
            (visit.normalizedAgent cfg) then []
          else [.userAgent])

def sessionRiskSeverity (changes : List Signal) : Severity :=
  if changes = [] then .stable
  else if cfg.adminMode then .high
  else if changes = [.userAgent] then .low
  else if .ipNetwork ∈ changes ∧ .userAgentFamily ∈ changes then .high
  else .medium

def storeCurrentSessionRiskContext (clearReauth : Bool) (now : ℤ) (items : Items) : Items :=
  { items with
    riskFingerprint := some (currentSessionRiskFingerprint cfg visit items)
    riskContext := some (currentSessionRiskContext cfg visit now)
    riskReauthRequired := if clearReauth then false else items.riskReauthRequired }

def touchSessionRiskContext (now : ℤ) (items : Items) : Items :=
  match items.riskContext with
  | none => storeCurrentSessionRiskContext cfg visit false now items
  | some stored =>
      if stored.version ≠ sessionRiskContextVersion then
        storeCurrentSessionRiskContext cfg visit false now items
      else { items with riskContext := some { stored with lastCheckedAt := now } }

/-- `refresh_session_risk_fingerprint`; the column of the record is not read. -/
def refreshSessionRiskFingerprint (now : ℤ) (items : Items) : Items :=
  storeCurrentSessionRiskContext cfg visit true now items

namespace State

/-- The session, and whether the request is answered here. -/
def enforceAuthenticatedSessionContext (st : State) : State × Bool :=
  if st.session.items.userId.isNone then (st, false)
  else match sessionRiskSeverity cfg (sessionRiskContextChanges cfg visit st.session.items) with
    | .stable => (st.update (touchSessionRiskContext cfg visit st.now), false)
    | .low =>
        ((st.auditEvent visit.auditWritten).update
          (storeCurrentSessionRiskContext cfg visit true st.now), false)
    | .medium =>
        let known := st.session.items.riskReauthRequired
        let st := if known then st else st.auditEvent visit.auditWritten
        (st.update fun items =>
          touchSessionRiskContext cfg visit st.now { items with riskReauthRequired := true }, false)
    | .high => ((st.auditEvent visit.auditWritten).revokeCurrentSession .riskChange, true)

/-- What `require_stable_session_for_sensitive_action` leaves; it returns, and the
action goes on, or it raises. -/
def requireStableSessionForSensitiveAction (auditWritten : Bool) (st : State) : State :=
  let items := st.session.items
  let passed (st : State) : State :=
    if items.userId.isSome then st.log (.stable st.session.sid) else st
  if items.riskReauthRequired then st
  else match items.riskFingerprint with
    | none => passed (st.update (refreshSessionRiskFingerprint cfg visit st.now))
    | some stored =>
        if stored = "" then passed (st.update (refreshSessionRiskFingerprint cfg visit st.now))
        else if stored = currentSessionRiskFingerprint cfg visit items then passed st
        else if cfg.matchesHmac stored (currentSessionRiskMessage cfg visit items) then
          passed (st.update (refreshSessionRiskFingerprint cfg visit st.now))
        else (st.update fun items => { items with riskReauthRequired := true }).auditEvent
          auditWritten

end State

end Risk

/-! ### The before-request hook -/

section Hook

variable (cfg : Config) (visit : Visit)

def pendingMfaExpired (items : Items) (now : ℤ) : Bool :=
  items.pendingMfaUserId.isSome && match items.passwordAuthenticatedAt with
    | none => true
    | some t => t = 0 || cfg.pendingMfaMaxAgeSeconds < now - t

def lifetimeExpired (items : Items) (now : ℤ) : Bool :=
  items.userId.isSome && match items.authCreatedAt with
    | none => false
    | some t => t ≤ 0 || cfg.sessionAbsoluteLifetimeSeconds < now - t

/-- `now - int(session.get("last_activity_at") or now)`. -/
def idleSeconds (items : Items) (now : ℤ) : ℤ :=
  match items.lastActivityAt with
  | none => 0
  | some t => if t = 0 then 0 else now - t

/-- An authenticated session without a creation time gets one. -/
def withAuthCreatedAt (now : ℤ) (items : Items) : Items :=
  if items.userId.isSome && items.authCreatedAt.isNone then
    { items with authCreatedAt := some now }
  else items

namespace State

def pendingMfaExpiryResponse (st : State) : State :=
  let st := (st.revokeCurrentSession .expired).auditEvent visit.auditWritten
  if visit.authPath then st
  else (st.update fun items => { items with others := "_flashes" :: items.others }).rotateSessionId

/-- `update_session_activity`. -/
def updateSessionActivity (st : State) : State :=
  match st.session.items.userId with
  | none => st
  | some user => st.setPending fun r =>
      if r.sid = st.session.sid then
        { r with
          lastActivityAt := st.clock, expiresAt := st.sessionExpiresAt cfg, userId := some user }
      else r

/-- What is left of the hook once the session has not expired. -/
def touchSession (st : State) : State × Bool :=
  match st.enforceAuthenticatedSessionContext cfg visit with
  | (st, true) => (st, true)
  | (st, false) =>
      if visit.activityExempt then (st, false)
      else
        ((st.update fun items => { items with lastActivityAt := some st.now }).updateSessionActivity
          cfg, false)

/-- `_enforce_session_activity` for a session that is not revoked. -/
def enforceSessionLifetime (st : State) : State × Bool :=
  let items := st.session.items
  if items.principal.isNone then (st, false)
  else if pendingMfaExpired cfg items st.now then (st.pendingMfaExpiryResponse visit, true)
  else if lifetimeExpired cfg items st.now then
    ((st.auditEvent visit.auditWritten).revokeCurrentSession .absoluteLifetime, true)
  else
    let st := st.update (withAuthCreatedAt st.now)
    if cfg.sessionInactivitySeconds < idleSeconds st.session.items st.now then
      (st.revokeCurrentSession .expired, true)
    else st.touchSession cfg visit

def revoked (st : State) : Bool :=
  st.session.items ≠ .empty && (st.record st.session.sid).any (·.ended.isSome)

def enforceSessionActivity (st : State) : State × Bool :=
  if st.revoked then (st.clear, !visit.publicEndpoint)
  else st.enforceSessionLifetime cfg visit

end State

end Hook

/-! ### Handlers -/

section Handlers

variable (cfg : Config) (visit : Visit)

namespace State

/-- `begin_password_authenticated_session`. -/
def beginPasswordAuthenticatedSession (user : ℕ) (st : State) : State :=
  (st.update fun _ => { Items.empty with
    pendingMfaUserId := some user
    passwordAuthenticatedAt := some st.now
    lastActivityAt := some st.now
    others := ["_permanent"] }).rotateSessionId

/-- The session of a password reset, once its token is exchanged. -/
def beginResetSession (st : State) : State :=
  (st.update fun _ => { Items.empty with
    lastActivityAt := some st.now
    others := ["_permanent", "password_reset_transaction"] }).rotateSessionId

/-- The record of the session, added when there is none. -/
def registerSessionMetadata (user : ℕ) (st : State) : State :=
  let st := if (st.record st.session.sid).isSome then st
    else { st with pending := st.pending ++
      [⟨st.session.sid, none, none, st.clock, st.sessionExpiresAt cfg, none⟩] }
  st.setPending fun r =>
    if r.sid = st.session.sid then
      { r with
        userId := some user, lastActivityAt := st.clock, expiresAt := st.sessionExpiresAt cfg }
    else r

def isActive (user : ℕ) (clock : ℤ) (r : Record) : Bool :=
  r.userId = some user && r.ended.isNone && clock < r.expiresAt && r.payload.isSome

def isStale (user : ℕ) (clock : ℤ) (r : Record) : Bool :=
  r.userId = some user && r.ended.isNone && r.expiresAt ≤ clock

/-- `enforce_active_session_cap`: one session is kept, the current one. -/
def enforceActiveSessionCap (user : ℕ) (st : State) : State :=
  let excess := fun r : Record => isActive user st.clock r && r.sid ≠ st.session.sid
  let revoked := st.pending.any excess
  let st := (st.endSessions (isStale user st.clock) .expired).endSessions excess .sessionCap
  if revoked then st.commit else st

def establishAuthenticatedSession (user : ℕ) (mfaVerified : Bool) (authContext : String)
    (st : State) : State :=
  let st := st.update fun _ => { Items.empty with
    userId := some user
    authContext := authContext
    authCreatedAt := some st.now
    lastActivityAt := some st.now
    others := ["_permanent", "login_at"] ++
      if mfaVerified then ["mfa_verified_at", "fresh_mfa_verified_at"] else [] }
  let st := st.rotateSessionId
  let st := st.log (.authenticated st.session.sid st.clock)
  let st := st.update (refreshSessionRiskFingerprint cfg visit st.now)
  (st.registerSessionMetadata cfg user).enforceActiveSessionCap user

def markFreshMfa (st : State) : State :=
  st.update fun items => { items with
    lastActivityAt := some st.now
    others := "mfa_verified_at" :: "fresh_mfa_verified_at" :: items.others }

def rotateAuthenticatedSessionAfterMfa (user : ℕ) (st : State) : State :=
  let st := st.markFreshMfa.rotateSessionId
  (st.update (refreshSessionRiskFingerprint cfg visit st.now)).registerSessionMetadata cfg user

end State

/-- What a handler can do with the session and its records. Every handler is a
sequence of these steps. -/
inductive Action
  | wait (microseconds : ℕ)
  | auditEvent (written : Bool)
  | commit
  | rollback
  /-- Entries that neither the hook nor the risk checks read. -/
  | setOthers (others : List String)
  | clear
  /-- The revocations of a user's sessions, of the others and of a given one. -/
  | endSessions (p : Record → Bool) (reason : EndReason)
  | revokeCurrentSession (reason : EndReason)
  | beginPasswordAuthenticatedSession (user : ℕ)
  | beginResetSession
  | establishAuthenticatedSession (user : ℕ) (mfaVerified : Bool) (authContext : String)
  | markFreshMfa
  | rotateAuthenticatedSessionAfterMfa (user : ℕ)
  | requireStableSessionForSensitiveAction (auditWritten : Bool)

def Action.run (st : State) : Action → State
  | .wait microseconds => st.wait microseconds
  | .auditEvent written => st.auditEvent written
  | .commit => st.commit
  | .rollback => st.rollback
  | .setOthers others => st.update fun items => { items with others := others }
  | .clear => st.clear
  | .endSessions p reason => st.endSessions p reason
  | .revokeCurrentSession reason => st.revokeCurrentSession reason
  | .beginPasswordAuthenticatedSession user => st.beginPasswordAuthenticatedSession user
  | .beginResetSession => st.beginResetSession
  | .establishAuthenticatedSession user mfaVerified authContext =>
      st.establishAuthenticatedSession cfg visit user mfaVerified authContext
  | .markFreshMfa => st.markFreshMfa
  | .rotateAuthenticatedSessionAfterMfa user =>
      st.rotateAuthenticatedSessionAfterMfa cfg visit user
  | .requireStableSessionForSensitiveAction auditWritten =>
      st.requireStableSessionForSensitiveAction cfg visit auditWritten

end Handlers

/-! ### Requests -/

section Requests

variable (cfg : Config) (visit : Visit)

namespace State

def permanent (items : Items) : Items :=
  if "_permanent" ∈ items.others then items
  else { items with others := "_permanent" :: items.others }

/-- The columns of a record that `save_session` writes. -/
def saveRecord (st : State) (r : Record) : Record :=
  { r with
    payload := some st.session.items
    userId := st.session.items.principal
    lastActivityAt := if visit.activityExempt then r.lastActivityAt else st.clock
    expiresAt := if visit.activityExempt then r.expiresAt else st.sessionExpiresAt cfg
    ended := none }

def commitQuietly (st : State) : State :=
  match visit.saved with
  | .committed => st.commit
  | _ => st.rollback

/-- The browser keeps its cookie where no response reaches it. -/
def setCookie (cookie : Option ℕ) (st : State) : State :=
  if visit.saved = .failed || visit.responseLost then st else { st with cookie := cookie }

/-- The history of a save. -/
def logFlag (st : State) : State :=
  if visit.saved = .committed && st.session.items.userId.isSome &&
      st.session.items.riskReauthRequired then st.log (.flagged st.session.sid)
  else st

def saveSession (st : State) : State :=
  if st.session.items = .empty then
    if st.session.modified then
      ((st.endSessionId st.session.sid .ended).commitQuietly visit).setCookie visit none
    else st
  else
    let st := st.update permanent
    let st := if (st.record st.session.sid).isSome then st
      else { st with pending := st.pending ++
        [⟨st.session.sid, none, none, st.clock, st.sessionExpiresAt cfg, none⟩] }
    let st := st.setPending fun r => if r.sid = st.session.sid then st.saveRecord cfg visit r else r
    ((st.commitQuietly visit).logFlag visit).setCookie visit (some st.session.sid)

/-- The handler of a status poll does nothing to the session. -/
def handle (actions : List Action) (st : State) : State :=
  if visit.activityExempt then st else actions.foldl (Action.run cfg visit) st

/-- The hook and the handler; the history says that an authenticated session was
let through. -/
def dispatch (actions : List Action) (st : State) : State :=
  if visit.answeredBefore then st
  else match st.enforceSessionActivity cfg visit with
    | (st, true) => st
    | (st, false) =>
        let st := if st.session.items.userId.isSome then st.log (.served st.session.sid st.clock)
          else st
        st.handle cfg visit actions

/-- Removing the database session at the end rolls back. -/
def finish (st : State) : State :=
  let st := st.rollback
  if visit.activityExempt then st else st.log (.request st.clock)

def serve (actions : List Action) (st : State) : State :=
  let st := (st.openSession visit).wait visit.untilHook
  let st := (st.dispatch cfg visit actions).wait visit.untilSave
  (st.saveSession cfg visit).finish visit

end State

end Requests

/-- A request of the browser, or what happens between its requests: time passes,
and requests of others end its sessions. -/
inductive Step
  | request (visit : Visit) (actions : List Action)
  | wait (microseconds : ℕ)
  | endSessions (p : Record → Bool) (reason : EndReason)

def Step.run (cfg : Config) (st : State) : Step → State
  | .request visit actions => st.serve cfg visit actions
  | .wait microseconds => st.wait microseconds
  | .endSessions p reason => (st.endSessions p reason).commit

/-- No session was ever opened. -/
structure Initial (st : State) : Prop where
  clock : 0 < st.now
  records : st.records = []
  pending : st.pending = []
  history : st.history = []

/-! ### A sample browser -/

/-- Customers, five minutes of inactivity and half an hour in all. -/
def customerConfig : Config where
  adminMode := false
  sessionInactivitySeconds := 300
  sessionAbsoluteLifetimeSeconds := 1800
  pendingMfaMaxAgeSeconds := 300
  normalizedIpContext a := String.ofList (a.toList.take 8) ++ "0/24"
  normalizedUserAgent a := a.toLower
  userAgentFamily a := String.ofList (a.toList.takeWhile (· ≠ '/'))
  userAgentFingerprint a := a
  activeHmacHex m := m
  matchesHmac stored m := stored = m

/-- A request at which nothing fails. -/
def plainVisit : Visit where
  remoteAddr := "192.0.2.17"
  userAgent := "Firefox/140"
  activityExempt := false
  publicEndpoint := false
  authPath := true
  intact := true
  answeredBefore := false
  untilHook := 0
  untilSave := 0
  auditWritten := true
  saved := .committed
  responseLost := false

def noSessions : State where
  clock := 1750000000000000
  records := []
  pending := []
  session := ⟨0, .empty, false⟩
  nextSid := 1
  cookie := none
  history := []

def afterSteps (cfg : Config) (steps : List Step) : State := steps.foldl (Step.run cfg) noSessions

theorem initial_noSessions : Initial noSessions where
  clock := by decide
  records := rfl
  pending := rfl
  history := rfl

def login : Step :=
  .request plainVisit [.establishAuthenticatedSession 7 true "password+totp", .auditEvent true]

end SitBank.Browser
