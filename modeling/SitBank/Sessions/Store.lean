import SitBank.Orm.Hoare

/-!
Browser sessions in the database (`app/security/sessions.py`).

A `ServerSideSession` record holds the signed payload of a browser session and
the markers of its end. A request opens the session of its cookie, runs the
before-request hook and its handler, and saves the session; all of them work on
the request's one database session, so an instance of the record that was loaded
when the session was opened is still the one that is saved, unless a commit
expired it in between.

The signature of a payload is a parameter. Columns that no decision depends on
(`session_ref`, the address, the user agent and the risk fingerprint) are left
out, and so is the process-wide lock around opening and saving, which does not
order the requests of different worker processes.
-/

namespace SitBank.Sessions

open SitBank.Interaction SitBank.Orm

/-! ### Data -/

/-- `APP_MODE`. -/
inductive Component
  | customer
  | admin
  deriving DecidableEq, Repr

/-- `SESSION_END_REASON_LABELS`; a reason without a label is stored as `ended`. -/
inductive EndReason
  | logout
  | terminated
  | revoked
  | expired
  | absoluteLifetime
  | riskChange
  | rotated
  | integrityFailure
  | sessionCap
  | passwordChange
  | passwordReset
  | manualRecovery
  | securityUnlock
  | ended
  deriving DecidableEq, Repr

/-- The entries of a browser session that the code of this module reads, and the
names of its other entries. -/
structure SessionData where
  userId : Option ℕ
  pendingMfaUserId : Option ℕ
  passwordAuthenticatedAt : Option ℤ
  authCreatedAt : Option ℤ
  lastActivityAt : Option ℤ
  riskReauthRequired : Bool
  others : List String
  deriving DecidableEq, Repr

def SessionData.empty : SessionData := ⟨none, none, none, none, none, false, []⟩

structure ServerSideSession where
  id : ℕ
  userId : Option ℕ
  payload : Option String
  createdAt : ℤ
  lastActivityAt : ℤ
  expiresAt : ℤ
  revokedAt : Option ℤ
  endedAt : Option ℤ
  endedReason : Option EndReason
  deriving DecidableEq, Repr

/-- The unique columns under which a record is found. -/
structure Key where
  component : Component
  lookupHash : String
  deriving DecidableEq, Repr

/-- The places that the statements refer to: a session was opened for a cookie,
authenticated or not; a record is about to be saved. -/
inductive Point
  | opened (cookie : Option String) (authenticated : Bool)
  | saving (k : Key)
  deriving DecidableEq, Repr

/-- The column of the stored row after an `UPDATE` that sets it only when the
session changed it. -/
def col {α : Type} [DecidableEq α] (loaded current stored : α) : α :=
  if current = loaded then stored else current

def ServerSideSession.merge (l c d : ServerSideSession) : ServerSideSession where
  id := d.id
  userId := col l.userId c.userId d.userId
  payload := col l.payload c.payload d.payload
  createdAt := col l.createdAt c.createdAt d.createdAt
  lastActivityAt := col l.lastActivityAt c.lastActivityAt d.lastActivityAt
  expiresAt := col l.expiresAt c.expiresAt d.expiresAt
  revokedAt := col l.revokedAt c.revokedAt d.revokedAt
  endedAt := col l.endedAt c.endedAt d.endedAt
  endedReason := col l.endedReason c.endedReason d.endedReason

abbrev store : Schema where
  Key := Key
  Row _ := ServerSideSession
  Ins := Empty
  Point := Point
  decEq := inferInstance
  merge _ := ServerSideSession.merge
  rowOk _ _ := true
  insOk _ _ := true
  brings _ _ _ := false

/-- Steps outside the database that can raise. -/
inductive Err
  | auditHash
  | auditWrite
  | payloadSigning
  deriving DecidableEq, Repr

abbrev SessReq (α : Type) := Req store Err α

abbrev SessWorld := World store

abbrev SessDb := Db store

/-- The settings, the keyed hash and the signature, and the records that a query
can return, in the order of their ids. -/
structure Config where
  component : Component
  sessionLookupHash : String → String
  signSessionPayload : String → SessionData → String
  verifySessionPayload : String → String → Option SessionData
  sessionInactivitySeconds : ℤ
  sessionAbsoluteLifetimeSeconds : ℤ
  pendingMfaMaxAgeSeconds : ℤ
  records : List Key

def Config.key (cfg : Config) (sid : String) : Key := ⟨cfg.component, cfg.sessionLookupHash sid⟩

structure DatabaseSession where
  sid : String
  data : SessionData
  modified : Bool
  deriving DecidableEq, Repr

namespace DatabaseSession

def clear (s : DatabaseSession) : DatabaseSession := { s with data := .empty, modified := true }

def update (s : DatabaseSession) (f : SessionData → SessionData) : DatabaseSession :=
  { s with data := f s.data, modified := true }

/-- `session.get("user_id") or session.get("pending_mfa_user_id")`. -/
def principal (s : DatabaseSession) : Option ℕ :=
  s.data.userId.orElse fun _ => s.data.pendingMfaUserId

end DatabaseSession

/-- What a request brings along. -/
structure Visit where
  cookie : Option String
  activityExempt : Bool
  publicEndpoint : Bool
  authPath : Bool

/-! ### Records -/

abbrev loadRecord (k : Key) : SessReq ServerSideSession := load (S := store) k

abbrev assignRecord (k : Key) (f : ServerSideSession → ServerSideSession) : SessReq Unit :=
  assign (S := store) k f

def recordAt (k : Key) (db : SessDb) : Option Key :=
  if (db.row k).isSome then some k else none

def sessionRecordForSid (cfg : Config) (sid : String) : SessReq (Option Key) :=
  select (recordAt (cfg.key sid))

/-- `int(time.time())`. -/
def epochSeconds (instant : ℤ) : ℤ := instant / 1000000

def sessionExpiresAt (cfg : Config) (now : ℤ) : ℤ := now + cfg.sessionInactivitySeconds * 1000000

def endSessionRecord (k : Key) (reason : EndReason) (now : ℤ) : SessReq Unit := do
  let record ← loadRecord k
  if record.endedAt.isSome then pure ()
  else assignRecord k fun r => { r with
    payload := none, revokedAt := some now, endedAt := some now, endedReason := some reason }

def endSessionId (cfg : Config) (sid : String) (reason : EndReason) : SessReq Unit := do
  match ← sessionRecordForSid cfg sid with
  | none => pure ()
  | some k =>
      let now ← now
      endSessionRecord k reason now

def commitQuietly : SessReq Unit :=
  commit.tryCatch fun
    | .db .integrity => rollback
    | e => do
        rollback
        .raise e

/-- The body of `_audit_event`. -/
def insertAuditEvent : SessReq Unit := do
  query fun _ => ()
  check .auditHash
  query fun _ => ()

/-- `audit_event`: it commits, or rolls back, the session of its caller. -/
def auditEvent : SessReq Unit :=
  (insertAuditEvent.bind fun _ => commit).tryCatch fun _ => rollback

def auditEventRequired : SessReq Unit :=
  insertAuditEvent.tryCatch fun _ => raise .auditWrite

def newSession : SessReq DatabaseSession := do
  let sid ← uuid4
  pure ⟨sid, .empty, false⟩

/-! ### Opening -/

def handleIntegrityFailure (k : Key) : SessReq Unit := do
  let now ← now
  endSessionRecord k .integrityFailure now
  auditEvent

/-- The end of a record that cannot be opened any more, and a new session. -/
def endAndReplace (k : Key) (reason : EndReason) (now : ℤ) : SessReq DatabaseSession := do
  endSessionRecord k reason now
  commitQuietly
  newSession

def touchRecord (visit : Visit) (k : Key) (now : ℤ) : SessReq Unit :=
  if visit.activityExempt then pure ()
  else assignRecord k fun r => { r with lastActivityAt := now }

/-- `open_session` once the record is found. -/
def openRecord (cfg : Config) (visit : Visit) (sid : String) (k : Key) :
    SessReq DatabaseSession := do
  let now ← now
  let record ← loadRecord k
  if record.revokedAt.isSome then newSession
  else if record.expiresAt ≤ now then endAndReplace k .expired now
  else match record.payload with
    | none => endAndReplace k .ended now
    | some payload =>
        match cfg.verifySessionPayload k.lookupHash payload with
        | none => do
            handleIntegrityFailure k
            newSession
        | some data => do
            touchRecord visit k now
            pure ⟨sid, data, false⟩

def openSession (cfg : Config) (visit : Visit) : SessReq DatabaseSession :=
  match visit.cookie with
  | none => newSession
  | some sid => do
      match ← sessionRecordForSid cfg sid with
      | none => newSession
      | some k => openRecord cfg visit sid k

/-! ### Revocation -/

def isActive (user : ℕ) (component : Component) (now : ℤ) (k : Key)
    (r : ServerSideSession) : Bool :=
  k.component = component && r.userId = some user && r.revokedAt.isNone && r.endedAt.isNone &&
    now < r.expiresAt && r.payload.isSome

def isStale (user : ℕ) (component : Component) (now : ℤ) (k : Key) (r : ServerSideSession) : Bool :=
  k.component = component && r.userId = some user && r.revokedAt.isNone && r.endedAt.isNone &&
    r.expiresAt ≤ now

def recordsWhere (cfg : Config) (p : Key → ServerSideSession → Bool) (db : SessDb) : List Key :=
  cfg.records.filter fun k => (db.row k).any (p k)

def expireStaleSessions (cfg : Config) (user : ℕ) (now : ℤ) : SessReq Unit := do
  let stale ← selectAll (recordsWhere cfg (isStale user cfg.component now))
  Prog.forEach (fun k => endSessionRecord k .expired now) stale

def activeSessionRecords (cfg : Config) (user : ℕ) (component : Component) :
    SessReq (List Key) := do
  let now ← now
  let records ← selectAll (recordsWhere cfg (isActive user component now))
  expireStaleSessions cfg user now
  pure records

def endRecords (ks : List Key) (reason : EndReason) : SessReq Unit :=
  Prog.forEach (fun k => do
    let now ← now
    endSessionRecord k reason now) ks

/-- `revoke_session`, for the record that the identifier stands for. -/
def revokeSession (k : Key) (user : Option ℕ) (reason : EndReason) : SessReq Unit := do
  match ← select (recordAt k) with
  | none => pure ()
  | some k =>
      let record ← loadRecord k
      if user.isSome && record.userId.isSome && record.userId != user then pure ()
      else
        let now ← now
        endSessionRecord k reason now

def revokeCurrentSession (cfg : Config) (s : DatabaseSession) (reason : EndReason) :
    SessReq DatabaseSession := do
  revokeSession (cfg.key s.sid) s.principal reason
  pure s.clear

def revokeOtherSessions (cfg : Config) (s : DatabaseSession) (user : ℕ) (reason : EndReason) :
    SessReq Unit := do
  let records ← activeSessionRecords cfg user cfg.component
  endRecords (records.filter fun k => k.lookupHash ≠ cfg.sessionLookupHash s.sid) reason

def revokeAllSessions (cfg : Config) (user : ℕ) (reason : EndReason) (component : Component) :
    SessReq Unit := do
  let records ← activeSessionRecords cfg user component
  endRecords records reason

/-- `regenerate`: the old record ends, and the session goes on under a new id. -/
def regenerate (cfg : Config) (s : DatabaseSession) : SessReq DatabaseSession := do
  endSessionId cfg s.sid .rotated
  let sid ← uuid4
  pure { s with sid := sid, modified := true }

def rotateSessionId (cfg : Config) (s : DatabaseSession) : SessReq DatabaseSession :=
  if s.data = .empty then pure s else regenerate cfg s

/-- A record that was not in the table yet. -/
def newRecord (cfg : Config) (now : ℤ) : ServerSideSession :=
  ⟨cfg.records.length, none, none, now, now, sessionExpiresAt cfg now, none, none, none⟩

/-- The record of the session, added when there is none. -/
def currentOrNewRecord (cfg : Config) (sid : String) (now : ℤ) : SessReq Unit := do
  match ← sessionRecordForSid cfg sid with
  | none => addRow (S := store) (cfg.key sid) (newRecord cfg now)
  | some _ => pure ()

def registerSessionMetadata (cfg : Config) (s : DatabaseSession) (user : ℕ) (loginTime : ℤ) :
    SessReq Unit := do
  let now ← now
  currentOrNewRecord cfg s.sid now
  assignRecord (cfg.key s.sid) fun r => { r with
    userId := some user, createdAt := loginTime, lastActivityAt := now
    expiresAt := sessionExpiresAt cfg now }

/-- The order in which `enforce_active_session_cap` keeps records: the current
one, then the oldest. -/
def keptBefore (current : String) (a b : Key × ServerSideSession) : Bool :=
  if a.1.lookupHash = current then true
  else if b.1.lookupHash = current then false
  else a.2.createdAt < b.2.createdAt || (a.2.createdAt = b.2.createdAt && a.2.id ≤ b.2.id)

def loadRecords : List Key → SessReq (List (Key × ServerSideSession))
  | [] => pure []
  | k :: ks => do
      let r ← loadRecord k
      let rest ← loadRecords ks
      pure ((k, r) :: rest)

/-- The records that count: the active ones, and the current one. -/
def countedRecords (cfg : Config) (s : DatabaseSession) (user : ℕ) (records : List Key) :
    SessReq (List Key) := do
  match ← sessionRecordForSid cfg s.sid with
  | none => pure records
  | some k =>
      let r ← loadRecord k
      if r.userId = some user && r.revokedAt.isNone && r.endedAt.isNone && k ∉ records then
        pure (records ++ [k])
      else pure records

/-- `enforce_active_session_cap`: one session is kept. -/
def enforceActiveSessionCap (cfg : Config) (s : DatabaseSession) (user : ℕ) : SessReq Unit := do
  let now ← now
  let records ← activeSessionRecords cfg user cfg.component
  let counted ← countedRecords cfg s user records
  let loaded ← loadRecords counted
  let excess := ((loaded.mergeSort (keptBefore (cfg.sessionLookupHash s.sid))).drop 1).map Prod.fst
  Prog.forEach (fun k => endSessionRecord k .sessionCap now) excess
  if excess = [] then pure () else commit

/-- What `_lock_user_account` does to the sessions of the user. -/
def lockUserAccount (cfg : Config) (user : ℕ) : SessReq Unit := do
  revokeAllSessions cfg user .revoked cfg.component
  auditEventRequired
  commit

/-! ### The before-request hook -/

/-- `update_session_activity`. -/
def updateSessionActivity (cfg : Config) (s : DatabaseSession) : SessReq Unit :=
  match s.data.userId with
  | none => pure ()
  | some user => do
      match ← sessionRecordForSid cfg s.sid with
      | none => pure ()
      | some k =>
          let now ← now
          assignRecord k fun r => { r with
            lastActivityAt := now, expiresAt := sessionExpiresAt cfg now, userId := some user }

/-- `_session_risk_severity`; it depends on the address and the browser. -/
inductive Severity
  | stable
  | low
  | medium
  | high
  deriving DecidableEq, Repr

def sessionRiskSeverity : SessReq Severity := do
  let changed ← ask
  if !changed then pure .stable
  else
    let severe ← ask
    if severe then pure .high
    else
      let family ← ask
      pure (if family then .medium else .low)

def auditUnless (known : Bool) : SessReq Unit := if known then pure () else auditEvent

/-- `enforce_authenticated_session_context`: the session, and whether the request
is answered here. -/
def enforceAuthenticatedSessionContext (cfg : Config) (s : DatabaseSession) :
    SessReq (DatabaseSession × Bool) := do
  if s.data.userId.isNone then pure (s, false)
  else match ← sessionRiskSeverity with
    | .stable => pure ({ s with modified := true }, false)
    | .low =>
        auditEvent
        pure (s.update fun d => { d with riskReauthRequired := false }, false)
    | .medium =>
        auditUnless s.data.riskReauthRequired
        pure (s.update fun d => { d with riskReauthRequired := true }, false)
    | .high =>
        auditEvent
        let s ← revokeCurrentSession cfg s .riskChange
        pure (s, true)

def pendingMfaExpired (cfg : Config) (d : SessionData) (now : ℤ) : Bool :=
  d.pendingMfaUserId.isSome && match d.passwordAuthenticatedAt with
    | none => true
    | some t => t = 0 || cfg.pendingMfaMaxAgeSeconds < now - t

def pendingMfaExpiryResponse (cfg : Config) (visit : Visit) (s : DatabaseSession) :
    SessReq DatabaseSession := do
  let s ← revokeCurrentSession cfg s .expired
  auditEvent
  if visit.authPath then pure s
  else rotateSessionId cfg (s.update fun d => { d with others := "_flashes" :: d.others })

def lifetimeExpired (cfg : Config) (d : SessionData) (now : ℤ) : Bool :=
  d.userId.isSome && match d.authCreatedAt with
    | none => false
    | some t => t ≤ 0 || cfg.sessionAbsoluteLifetimeSeconds < now - t

/-- An authenticated session without a creation time gets one. -/
def DatabaseSession.withAuthCreatedAt (s : DatabaseSession) (now : ℤ) : DatabaseSession :=
  if s.data.userId.isSome && s.data.authCreatedAt.isNone then
    s.update fun d => { d with authCreatedAt := some now }
  else s

/-- What is left of the hook once the session has not expired. -/
def touchSession (cfg : Config) (visit : Visit) (s : DatabaseSession) (now : ℤ) :
    SessReq (DatabaseSession × Bool) := do
  let (s, answered) ← enforceAuthenticatedSessionContext cfg s
  if answered || visit.activityExempt then pure (s, answered)
  else
    let s := s.update fun d => { d with lastActivityAt := some now }
    updateSessionActivity cfg s
    pure (s, false)

/-- `_enforce_session_activity` for a session that is not revoked. -/
def enforceSessionLifetime (cfg : Config) (visit : Visit) (s : DatabaseSession) :
    SessReq (DatabaseSession × Bool) := do
  if s.principal.isNone then pure (s, false)
  else
    let instant ← now
    let now := epochSeconds instant
    if pendingMfaExpired cfg s.data now then
      let s ← pendingMfaExpiryResponse cfg visit s
      pure (s, true)
    else if lifetimeExpired cfg s.data now then
      auditEvent
      let s ← revokeCurrentSession cfg s .absoluteLifetime
      pure (s, true)
    else
      let s := s.withAuthCreatedAt now
      if cfg.sessionInactivitySeconds < now - s.data.lastActivityAt.getD now then
        let s ← revokeCurrentSession cfg s .expired
        pure (s, true)
      else touchSession cfg visit s now

def enforceSessionActivity (cfg : Config) (visit : Visit) (s : DatabaseSession) :
    SessReq (DatabaseSession × Bool) := do
  if s.data = .empty then enforceSessionLifetime cfg visit s
  else match ← sessionRecordForSid cfg s.sid with
    | none => enforceSessionLifetime cfg visit s
    | some k =>
        let record ← loadRecord k
        if record.revokedAt.isSome then pure (s.clear, !visit.publicEndpoint)
        else enforceSessionLifetime cfg visit s

/-! ### Handlers -/

/-- What a handler can do with the session and its records. Every handler is a
sequence of these steps. -/
inductive Action
  | auditEvent
  | commit
  | rollback
  | update (f : SessionData → SessionData)
  | clear
  | lookup
  | revokeSession (k : Key) (user : Option ℕ) (reason : EndReason)
  | revokeCurrentSession (reason : EndReason)
  | revokeOtherSessions (user : ℕ) (reason : EndReason)
  | revokeAllSessions (user : ℕ) (reason : EndReason) (component : Component)
  | rotateSessionId
  | registerSessionMetadata (user : ℕ) (loginTime : ℤ)
  | enforceActiveSessionCap (user : ℕ)
  | lockUserAccount (user : ℕ)

def Action.run (cfg : Config) (s : DatabaseSession) : Action → SessReq DatabaseSession
  | .auditEvent => do
      Sessions.auditEvent
      pure s
  | .commit => do
      Orm.commit
      pure s
  | .rollback => do
      Orm.rollback
      pure s
  | .update f => pure (s.update f)
  | .clear => pure s.clear
  | .lookup => do
      let _ ← sessionRecordForSid cfg s.sid
      pure s
  | .revokeSession k user reason => do
      Sessions.revokeSession k user reason
      pure s
  | .revokeCurrentSession reason => Sessions.revokeCurrentSession cfg s reason
  | .revokeOtherSessions user reason => do
      Sessions.revokeOtherSessions cfg s user reason
      pure s
  | .revokeAllSessions user reason component => do
      Sessions.revokeAllSessions cfg user reason component
      pure s
  | .rotateSessionId => Sessions.rotateSessionId cfg s
  | .registerSessionMetadata user loginTime => do
      Sessions.registerSessionMetadata cfg s user loginTime
      pure s
  | .enforceActiveSessionCap user => do
      Sessions.enforceActiveSessionCap cfg s user
      pure s
  | .lockUserAccount user => do
      Sessions.lockUserAccount cfg user
      pure s

/-- `p`, with its exception as a value. -/
def attempt {α : Type} (p : SessReq α) : SessReq (Option α) :=
  (p.bind fun a => pure (some a)).tryCatch fun _ => pure none

/-- A handler. An exception ends it, or is handled by it; the browser session is
as the completed steps left it. -/
def runActions (cfg : Config) : DatabaseSession → List Action → SessReq DatabaseSession
  | s, [] => pure s
  | s, a :: actions => do
      match ← attempt (a.run cfg s) with
      | some s' => runActions cfg s' actions
      | none =>
          let handled ← ask
          if handled then runActions cfg s actions else pure s

/-! ### Saving -/

/-- The columns of a record that `save_session` writes. -/
def saveRecord (cfg : Config) (visit : Visit) (s : DatabaseSession) (k : Key) (now : ℤ)
    (r : ServerSideSession) : ServerSideSession :=
  { r with
    payload := some (cfg.signSessionPayload k.lookupHash s.data)
    userId := s.principal
    lastActivityAt := if visit.activityExempt then r.lastActivityAt else now
    expiresAt := if visit.activityExempt then r.expiresAt else sessionExpiresAt cfg now
    revokedAt := none
    endedAt := none
    endedReason := none }

def saveSession (cfg : Config) (visit : Visit) (s : DatabaseSession) : SessReq Unit := do
  if s.data = .empty then
    if s.modified then
      endSessionId cfg s.sid .ended
      commitQuietly
    else pure ()
  else
    let now ← now
    check .payloadSigning
    currentOrNewRecord cfg s.sid now
    mark (.saving (cfg.key s.sid))
    assignRecord (cfg.key s.sid) (saveRecord cfg visit s (cfg.key s.sid) now)
    commitQuietly

/-- The request once its session is opened. An exception of the hook or the
handler becomes a response, and the session is saved with it. -/
def serveOpened (cfg : Config) (visit : Visit) (actions : List Action) (s : DatabaseSession) :
    SessReq Unit := do
  mark (.opened visit.cookie s.data.userId.isSome)
  match ← attempt (enforceSessionActivity cfg visit s) with
  | none => saveSession cfg visit s
  | some (s, true) => saveSession cfg visit s
  | some (s, false) =>
      let s ← runActions cfg s actions
      saveSession cfg visit s

/-- Removing the database session at the end rolls back. -/
def finish (p : SessReq Unit) : SessReq Unit := do
  p.tryCatch fun _ => pure ()
  rollback

def serve (cfg : Config) (visit : Visit) (actions : List Action) : SessReq Unit :=
  finish ((openSession cfg visit).bind (serveOpened cfg visit actions))

abbrev SessConf := Conf (Op store Err) (Res store Err) (Exc Err) Unit SessWorld

/-- Any number of requests, none of which has started. -/
def start (cfg : Config) (visits : ℕ → Visit) (actions : ℕ → List Action) (db : SessDb)
    (clock : ℤ) : SessConf where
  world := ⟨db, fun _ => none, fun _ => Session.empty store, clock⟩
  prog t := serve cfg (visits t) (actions t)

end SitBank.Sessions
