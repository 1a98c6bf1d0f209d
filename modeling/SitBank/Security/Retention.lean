import Mathlib.Algebra.Order.Ring.Int
import Mathlib.Logic.Function.Basic
import SitBank.Audit.Writer
import SitBank.Interaction.Call
import SitBank.Orm.Batches

/-!
The cleanup of expired security state (`app/security/state_cleanup.py`,
`app/security/retention.py` and the commands in `app/ops/commands.py`).

A command goes through the tables in a fixed order, and takes at most one batch from each. A
confirmed command commits all batches together with the audit event that counts them. Times are
in microseconds. Everything that can fail on the way is a parameter of the command.
-/

namespace SitBank.Security.Retention

open SitBank.Interaction SitBank.Orm SitBank.Audit

/-! ### Tables -/

inductive StateModel
  | serverSideSession
  | authAttemptCounter
  | totpReplayRecord
  | registrationOtpChallenge
  | passwordResetTransaction
  | passwordResetToken
  | securityAlertDedupe
  | securityCircuitBreaker
  | publicTransactionIdempotency
  | knownDevice
  | topUpApprovalRequest
  deriving DecidableEq

structure SessionRow where
  id : ℕ
  payload : Option (List UInt8)
  expiresAt : ℤ
  revokedAt : Option ℤ
  endedAt : Option ℤ
  endedReason : Option String

/-- A row that is kept up to a time, which is `window_expires_at` for a counter. -/
structure ExpiringRow where
  id : ℕ
  expiresAt : ℤ

structure ResetTransactionRow extends ExpiringRow where
  tokenId : ℕ

structure CircuitBreakerRow where
  id : ℕ
  state : String
  updatedAt : ℤ

structure ApprovalRequestRow extends ExpiringRow where
  status : String

namespace StateModel

@[reducible] def Row : StateModel → Type
  | serverSideSession => SessionRow
  | passwordResetTransaction => ResetTransactionRow
  | securityCircuitBreaker => CircuitBreakerRow
  | topUpApprovalRequest => ApprovalRequestRow
  | authAttemptCounter | totpReplayRecord | registrationOtpChallenge | passwordResetToken
  | securityAlertDedupe | publicTransactionIdempotency | knownDevice => ExpiringRow

/-- The primary key. -/
def key : (m : StateModel) → m.Row → ℕ
  | serverSideSession => SessionRow.id
  | passwordResetTransaction => fun row => row.id
  | securityCircuitBreaker => CircuitBreakerRow.id
  | topUpApprovalRequest => fun row => row.id
  | authAttemptCounter | totpReplayRecord | registrationOtpChallenge | passwordResetToken
  | securityAlertDedupe | publicTransactionIdempotency | knownDevice => ExpiringRow.id

/-- `order_by(model.id.asc())`. -/
def byId (m : StateModel) (row row' : m.Row) : Bool := m.key row ≤ m.key row'

end StateModel

/-- Every reset transaction has its token. -/
def References (rows : ∀ m : StateModel, List m.Row) : Prop :=
  ∀ tx ∈ (rows .passwordResetTransaction : List ResetTransactionRow),
    ∃ token ∈ (rows .passwordResetToken : List ExpiringRow), token.id = tx.tokenId

instance (rows : ∀ m : StateModel, List m.Row) : Decidable (References rows) :=
  inferInstanceAs (Decidable (∀ tx ∈ (rows .passwordResetTransaction : List ResetTransactionRow),
    ∃ token ∈ (rows .passwordResetToken : List ExpiringRow), token.id = tx.tokenId))

/-- The tables, with their keys. -/
structure Database where
  rows : ∀ m : StateModel, List m.Row
  unique : ∀ m, ((rows m).map m.key).Nodup
  referenced : References rows

namespace Database

def sessions (db : Database) : List SessionRow := db.rows .serverSideSession

def resetTransactions (db : Database) : List ResetTransactionRow :=
  db.rows .passwordResetTransaction

def resetTokens (db : Database) : List ExpiringRow := db.rows .passwordResetToken

theorem unique_update (db : Database) {m : StateModel} {rows : List m.Row}
    (h : (rows.map m.key).Nodup) (m' : StateModel) :
    ((Function.update db.rows m rows m').map m'.key).Nodup := by
  by_cases hm : m' = m
  · subst hm
    rwa [Function.update_self]
  · rw [Function.update_of_ne hm]
    exact db.unique m'

/-- `DELETE … WHERE id IN ids`, if no row is left that refers to one of these. -/
def delete (db : Database) (m : StateModel) (ids : List ℕ) : Option Database :=
  if h : References (Function.update db.rows m (without m.key (db.rows m) ids)) then
    some ⟨_, db.unique_update (nodup_without (db.unique m) ids), h⟩
  else none

theorem references_update (db : Database) (rows : List SessionRow) :
    References (Function.update db.rows .serverSideSession rows) := by
  intro tx htx
  rw [Function.update_of_ne (StateModel.noConfusion ·)] at htx
  rw [Function.update_of_ne (StateModel.noConfusion ·)]
  exact db.referenced tx htx

theorem unique_updateRows (db : Database) (ids : List ℕ) {f : SessionRow → SessionRow}
    (hf : ∀ row, (f row).id = row.id) :
    ((updateRows SessionRow.id db.sessions ids f).map SessionRow.id).Nodup := by
  rw [map_updateRows hf]
  exact db.unique .serverSideSession

end Database

/-- What `_mark_expired_sessions` makes of a record. -/
def SessionRow.expire (now : ℤ) (row : SessionRow) : SessionRow :=
  { row with payload := none, revokedAt := some now, endedAt := some now,
             endedReason := some "expired" }

theorem SessionRow.expire_id (now : ℤ) (row : SessionRow) : (row.expire now).id = row.id := rfl

def Database.expireSessions (db : Database) (ids : List ℕ) (now : ℤ) : Database :=
  ⟨Function.update db.rows .serverSideSession
      (updateRows SessionRow.id db.sessions ids (SessionRow.expire now)),
    db.unique_update (m := .serverSideSession)
      (db.unique_updateRows ids (SessionRow.expire_id now)),
    db.references_update _⟩

/-! ### What is asked for -/

/-- Sessions that are to be marked. -/
def SessionRow.expired (now : ℤ) (row : SessionRow) : Bool :=
  row.revokedAt.isNone && row.endedAt.isNone && row.expiresAt ≤ now

/-- `order_by(expires_at.asc(), id.asc())`. -/
def SessionRow.byExpiry (row row' : SessionRow) : Bool :=
  row.expiresAt < row'.expiresAt || (row.expiresAt = row'.expiresAt && row.id ≤ row'.id)

/-- The criteria that a table is cleaned with. Those for tokens depend on the transactions. -/
def criteria (resetTransactions : List ResetTransactionRow) (now cutoff : ℤ) :
    (m : StateModel) → m.Row → Bool
  | .serverSideSession => fun (row : SessionRow) => row.endedAt.any (· < cutoff)
  | .authAttemptCounter => fun (row : ExpiringRow) => row.expiresAt ≤ now
  | .totpReplayRecord => fun (row : ExpiringRow) => row.expiresAt ≤ now
  | .registrationOtpChallenge => fun (row : ExpiringRow) => row.expiresAt ≤ now
  | .passwordResetTransaction => fun (row : ResetTransactionRow) => row.expiresAt ≤ now
  | .passwordResetToken => fun (row : ExpiringRow) =>
      row.expiresAt ≤ now && !resetTransactions.any fun tx => tx.tokenId = row.id
  | .securityAlertDedupe => fun (row : ExpiringRow) => row.expiresAt ≤ now
  | .securityCircuitBreaker => fun (row : CircuitBreakerRow) =>
      row.state ≠ "open" && row.updatedAt < cutoff
  | .publicTransactionIdempotency => fun (row : ExpiringRow) => row.expiresAt ≤ now
  | .knownDevice => fun (row : ExpiringRow) => row.expiresAt ≤ now
  | .topUpApprovalRequest => fun (row : ApprovalRequestRow) =>
      row.status ∈ ["completed", "expired", "failed"] && row.expiresAt < cutoff

inductive Category
  | marked
  | deleted (m : StateModel)
  deriving DecidableEq

def Category.text : Category → String
  | .marked => "expired_sessions_marked"
  | .deleted .serverSideSession => "old_sessions_deleted"
  | .deleted .authAttemptCounter => "auth_attempt_counters_deleted"
  | .deleted .totpReplayRecord => "totp_replay_records_deleted"
  | .deleted .registrationOtpChallenge => "registration_otp_challenges_deleted"
  | .deleted .passwordResetTransaction => "password_reset_transactions_deleted"
  | .deleted .passwordResetToken => "password_reset_tokens_deleted"
  | .deleted .securityAlertDedupe => "security_alert_dedupe_deleted"
  | .deleted .securityCircuitBreaker => "security_circuit_breakers_deleted"
  | .deleted .publicTransactionIdempotency => "public_transaction_idempotency_deleted"
  | .deleted .knownDevice => "expired_known_devices_deleted"
  | .deleted .topUpApprovalRequest => "terminal_topup_approval_requests_deleted"

/-- The order of the entries of `counts`. -/
def categories : List Category :=
  [.marked, .deleted .serverSideSession, .deleted .authAttemptCounter,
    .deleted .totpReplayRecord, .deleted .registrationOtpChallenge,
    .deleted .passwordResetTransaction, .deleted .passwordResetToken,
    .deleted .securityAlertDedupe, .deleted .securityCircuitBreaker,
    .deleted .publicTransactionIdempotency, .deleted .knownDevice,
    .deleted .topUpApprovalRequest]

/-! ### The state of a command -/

inductive RetentionError
  | retentionCleanupError (message : String)
  | auditWriteError
  | databaseError
  | integrityError
  | loggingError
  | clickException (message : String)
  deriving DecidableEq

structure RetentionReport where
  confirmed : Bool
  retentionDays : ℤ
  batchLimit : ℤ
  categoryCounts : List (Category × ℕ)

inductive RetentionEvent
  | started (batchLimitRequested : Option ℤ)
  | completed (report : RetentionReport)
  | dryRun (report : RetentionReport)
  | failed (batchLimitRequested : Option ℤ) (error : RetentionError)

/-- The committed tables and events, and those that the transaction sees. -/
structure RetentionState where
  db : Database
  events : List RetentionEvent
  pending : Database
  pendingEvents : List RetentionEvent

namespace RetentionState

/-- A new database session. -/
def fresh (db : Database) (events : List RetentionEvent) : RetentionState :=
  ⟨db, events, db, events⟩

def commit (st : RetentionState) : RetentionState := fresh st.pending st.pendingEvents

def rollback (st : RetentionState) : RetentionState := fresh st.db st.events

def add (e : RetentionEvent) (st : RetentionState) : RetentionState :=
  { st with pendingEvents := st.pendingEvents ++ [e] }

def put (db : Database) (st : RetentionState) : RetentionState := { st with pending := db }

end RetentionState

/-- Which steps succeed. -/
structure RetentionFaults where
  started : AuditStep
  /-- The query of a category, and the statement that changes its rows. -/
  selected : Category → Bool
  executed : Category → Bool
  flushed : Bool
  completed : AuditStep
  committed : Bool
  dryRun : AuditStep
  failed : AuditStep

/-- `int(current_app.config[…])`, `none` where it raises. -/
structure RetentionConfig where
  retentionDays : Option ℤ
  cleanupBatchSize : Option ℤ

abbrev Cleanup (α : Type) := Call RetentionState RetentionError α

/-- `_write_system_audit_event`, with its own commit. -/
def writeSystemAuditEvent (required : Bool) (audit : AuditStep) (e : RetentionEvent) :
    Cleanup Unit :=
  if audit.written then do
    modify fun st => (st.add e).commit
    raiseIf (!audit.logged) .loggingError
  else do
    modify RetentionState.rollback
    raiseIf (!audit.logged) .loggingError
    raiseIf required .auditWriteError

def auditSystemEventInTransactionRequired (audit : AuditStep) (e : RetentionEvent) :
    Cleanup Unit :=
  if audit.written then modify (RetentionState.add e)
  else do
    raiseIf (!audit.logged) .loggingError
    throw .auditWriteError

/-! ### Cleaning -/

section Cleanup

variable (faults : RetentionFaults)

def markExpiredSessions (now : ℤ) (limit : ℕ) (dryRun : Bool) : Cleanup ℕ := do
  raiseIf (!faults.selected .marked) .databaseError
  let st ← get
  let records := batch SessionRow.byExpiry (SessionRow.expired now) limit st.pending.sessions
  if dryRun then pure records.length
  else do
    raiseIf (!faults.executed .marked) .databaseError
    modify (RetentionState.put (st.pending.expireSessions (records.map SessionRow.id) now))
    pure records.length

/-- `db.session.execute(db.delete(model)…)`. -/
def executeDelete (m : StateModel) (ids : List ℕ) (db : Database) : Cleanup ℕ :=
  match db.delete m ids with
  | none => throw .integrityError
  | some db' => do
      modify (RetentionState.put db')
      pure ids.length

def deleteRows (m : StateModel) (now cutoff : ℤ) (limit : ℕ) (dryRun : Bool) : Cleanup ℕ := do
  raiseIf (!faults.selected (.deleted m)) .databaseError
  let st ← get
  let wanted := criteria st.pending.resetTransactions now cutoff m
  let ids := (batch m.byId wanted limit (st.pending.rows m)).map m.key
  if ids = [] then pure 0
  else if dryRun then pure ids.length
  else do
    raiseIf (!faults.executed (.deleted m)) .databaseError
    executeDelete m ids st.pending

def cleanCategory (now cutoff : ℤ) (limit : ℕ) (dryRun : Bool) : Category → Cleanup ℕ
  | .marked => markExpiredSessions faults now limit dryRun
  | .deleted m => deleteRows faults m now cutoff limit dryRun

def cleanCategories (now cutoff : ℤ) (limit : ℕ) (dryRun : Bool) :
    List Category → Cleanup (List (Category × ℕ))
  | [] => pure []
  | c :: cs => do
      let count ← cleanCategory faults now cutoff limit dryRun c
      let counts ← cleanCategories now cutoff limit dryRun cs
      pure ((c, count) :: counts)

/-- `max(1, min(value, 5000))`. -/
def batchLimit (limit : ℤ) : ℕ := (max 1 (min limit 5000)).toNat

def timedeltaDays (days : ℤ) : ℤ := days * 86400000000

/-- The end of `cleanup_expired_security_state`. -/
def finishCleanup (dryRun commit : Bool) : Cleanup Unit :=
  if dryRun then modify RetentionState.rollback
  else if commit then do
    raiseIf (!faults.committed) .databaseError
    modify RetentionState.commit
  else raiseIf (!faults.flushed) .databaseError

/-- `cleanup_expired_security_state`, for a validated configuration. -/
def cleanupExpiredSecurityState (now retentionDays limit : ℤ) (dryRun commit : Bool) :
    Cleanup (List (Category × ℕ)) := do
  let counts ← cleanCategories faults now (now - timedeltaDays retentionDays) (batchLimit limit)
    dryRun categories
  finishCleanup faults dryRun commit
  pure counts

def configuredInt (name : String) (value : Option ℤ) (minimum maximum : ℤ) :
    Except RetentionError ℤ :=
  match value with
  | none => .error (.retentionCleanupError (name ++ " must be an integer"))
  | some value =>
      if value < minimum ∨ maximum < value then
        .error (.retentionCleanupError (name ++ " must be between " ++ toString minimum ++
          " and " ++ toString maximum))
      else .ok value

def validatedLimit (limit : Option ℤ) : Except RetentionError (Option ℤ) :=
  match limit with
  | none => .ok none
  | some value =>
      if value < 1 ∨ 5000 < value then
        .error (.retentionCleanupError "--limit must be between 1 and 5000")
      else .ok (some value)

variable (config : RetentionConfig)

def runRetentionCleanup (now : ℤ) (limit : Option ℤ) (dryRun confirm commit : Bool) :
    Cleanup RetentionReport := do
  let retentionDays ← ofExcept (configuredInt "SECURITY_STATE_RETENTION_DAYS"
    config.retentionDays 1 365)
  let configuredBatchLimit ← ofExcept (configuredInt "SECURITY_STATE_CLEANUP_BATCH_SIZE"
    config.cleanupBatchSize 1 5000)
  let requestedLimit ← ofExcept (validatedLimit limit)
  raiseIf (!dryRun && !confirm)
    (.retentionCleanupError "State-changing retention cleanup requires --confirm")
  -- without a requested limit the configured one is read again
  let batchLimit := requestedLimit.getD configuredBatchLimit
  let counts ← cleanupExpiredSecurityState faults now retentionDays batchLimit dryRun commit
  pure ⟨!dryRun, retentionDays, batchLimit, counts⟩

/-! ### The command -/

def announce (limit : Option ℤ) (confirm : Bool) : Cleanup Unit :=
  if confirm then
    tryCatch (writeSystemAuditEvent true faults.started (.started limit)) fun e =>
      throw (if e = .auditWriteError then
        .clickException "Retention cleanup refused because audit evidence is unavailable" else e)
  else pure ()

/-- The handlers of `run_retention_cleanup`. -/
def cleanupFailed (limit : Option ℤ) (confirm : Bool) (e : RetentionError) : Cleanup Unit := do
  modify RetentionState.rollback
  if confirm then writeSystemAuditEvent false faults.failed (.failed limit e) else pure ()

def failureMessage : RetentionError → String
  | .retentionCleanupError message => message
  | _ => "Retention cleanup failed and no cleanup changes were committed"

/-- The event of a confirmed command, in its transaction. -/
def commitCleanup (report : RetentionReport) : Cleanup Unit := do
  auditSystemEventInTransactionRequired faults.completed (.completed report)
  raiseIf (!faults.committed) .databaseError
  modify RetentionState.commit
  raiseIf (!faults.completed.logged) .loggingError

def unrecordedMessage : String :=
  "Retention cleanup rolled back because completion audit evidence could not be recorded"

def recordCleanup (limit : Option ℤ) (confirm : Bool) (report : RetentionReport) :
    Cleanup Unit :=
  if confirm then
    tryCatch (commitCleanup faults report) fun e => do
      cleanupFailed faults limit confirm e
      throw (.clickException unrecordedMessage)
  else writeSystemAuditEvent false faults.dryRun (.dryRun report)

/-- `_run_audited_retention_cleanup`. -/
def runAuditedRetentionCleanup (now : ℤ) (limit : Option ℤ) (confirm : Bool) :
    Cleanup RetentionReport := do
  announce faults limit confirm
  let report ← tryCatch
    (runRetentionCleanup faults config now limit (!confirm) confirm (!confirm)) fun e => do
      cleanupFailed faults limit confirm e
      throw (.clickException (failureMessage e))
  recordCleanup faults limit confirm report
  pure report

end Cleanup

/-- A call of `cleanup-security-state` or `run-retention-cleanup`. -/
structure Command where
  now : ℤ
  limit : Option ℤ
  confirm : Bool
  faults : RetentionFaults

/-- What is committed. -/
structure Stored where
  db : Database
  events : List RetentionEvent

/-- The session is removed after the command. -/
def runCommand (config : RetentionConfig) (c : Command) (s : Stored) : Stored :=
  let st := after (runAuditedRetentionCleanup c.faults config c.now c.limit c.confirm)
    (.fresh s.db s.events)
  ⟨st.db, st.events⟩

def runCommands (config : RetentionConfig) : List Command → Stored → Stored
  | [], s => s
  | c :: cs, s => runCommands config cs (runCommand config c s)

end SitBank.Security.Retention
