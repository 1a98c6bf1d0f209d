import SitBank.Admin.ActionRequests
import SitBank.Interaction.Machine
import SitBank.Interaction.RowLock

/-!
Decisions about one administrative request, by any number of sessions
(`app/admin/services.py`).

A session looks at the status once, without a lock. The check of the reviewer's code
commits, and what is assigned afterwards is written whatever the row has become: the copy
of the row has expired, or was loaded again without another look at its status. The
operations on manual recovery requests commit before the status is written; the others
are committed together with it. The operations that change something name the status that
the session has tested, for the statements about them; what they do does not depend on
it.

Tests that read neither the status nor the requester are questions with any answer, and
so is what becomes of a required audit event.
-/

namespace SitBank.Admin.ActionDecisions

open SitBank.Interaction

/-! ### The row -/

structure DecisionRow where
  requesterId : ℤ
  approverId : Option ℤ
  status : ActionStatus
  expiresAt : ℤ
  decidedAt : Option ℤ
  executedAt : Option ℤ
  deriving DecidableEq, Repr

inductive Change
  | execute (approver now : ℤ)
  | reject (approver now : ℤ)
  | cancel (now : ℤ)
  | expire (now : ℤ)
  /-- `decided_at` is kept if it is there. -/
  | fail (approver : ℤ) (decidedAt : ℤ)
  deriving DecidableEq, Repr

/-- The columns that the code assigns. -/
def Change.assign : Change → DecisionRow → DecisionRow
  | .execute approver now, row => { row with
      approverId := some approver, status := .executed, decidedAt := some now
      executedAt := some now }
  | .reject approver now, row => { row with
      approverId := some approver, status := .rejected, decidedAt := some now }
  | .cancel now, row => { row with status := .cancelled, decidedAt := some now }
  | .expire now, row => { row with status := .expired, decidedAt := some now }
  | .fail approver decidedAt, row => { row with
      approverId := some approver, status := .executionFailed, decidedAt := some decidedAt }

def Change.status : Change → ActionStatus
  | .execute .. => .executed
  | .reject .. => .rejected
  | .cancel .. => .cancelled
  | .expire .. => .expired
  | .fail .. => .executionFailed

/-- The row after the `UPDATE`. Without a loaded copy every assigned column is written. -/
def Change.write (record : Option DecisionRow) (change : Change) (row : DecisionRow) :
    DecisionRow :=
  match record with
  | none => change.assign row
  | some old => { row with
      approverId := written old.approverId (change.assign old).approverId row.approverId
      status := written old.status (change.assign old).status row.status
      decidedAt := written old.decidedAt (change.assign old).decidedAt row.decidedAt
      executedAt := written old.executedAt (change.assign old).executedAt row.executedAt }

/-- The committed row, and the sessions that have committed the operation. -/
structure DecisionWorld where
  row : DecisionRow
  executions : List ℕ

/-! ### Statements -/

inductive DecisionError
  | auth (message : String) (status : ℕ)
  | audit
  | operational
  deriving DecidableEq, Repr

inductive Question
  | activeRootAdmin
  | hmacValid
  | requesterEligible
  | codeGiven
  | backoff
  | codeRight
  | replayed
  | operationRefused
  | operationFails
  deriving DecidableEq, Repr

/-- What becomes of assigned columns: the required event is written and they are committed,
they are lost with an error, or the browser session commits them after the error. -/
inductive Fate
  | committed
  | lost
  | leftover
  deriving DecidableEq, Repr

inductive DecisionOp
  | ask (q : Question)
  | now
  | get
  | auditRequired
  /-- The operation commits by itself. -/
  | execute (tested : ActionStatus)
  /-- `UPDATE` and `COMMIT`, together with the operation if it is pending. -/
  | store (tested : ActionStatus) (executes : Bool) (record : Option DecisionRow)
      (change : Change)
  /-- What the session has assigned is gone. -/
  | lose
  | commit
  | rollback

def DecisionRes : DecisionOp → Type
  | .ask _ => Bool
  | .now => ℤ
  | .get => DecisionRow
  | .auditRequired => Fate
  | _ => Unit

abbrev DecisionReq (α : Type) := Prog DecisionOp DecisionRes DecisionError α

structure DecisionChoice where
  yes : Bool
  time : ℤ
  fate : Fate

def DecisionWorld.store (w : DecisionWorld) (t : ℕ) (executes : Bool)
    (record : Option DecisionRow) (change : Change) : DecisionWorld where
  row := change.write record w.row
  executions := if executes then w.executions ++ [t] else w.executions

def decisionExec : Exec DecisionOp DecisionRes DecisionError DecisionWorld DecisionChoice :=
  fun t o c w =>
    match o with
    | .ask _ => some (.ok c.yes, w)
    | .now => some (.ok c.time, w)
    | .get => some (.ok w.row, w)
    | .auditRequired => some (.ok c.fate, w)
    | .execute _ => some (.ok (), { w with executions := w.executions ++ [t] })
    | .store _ executes record change => some (.ok (), w.store t executes record change)
    | .lose => some (.ok (), w)
    | .commit => some (.ok (), w)
    | .rollback => some (.ok (), w)

def ask (q : Question) : DecisionReq Bool := Prog.perform (DecisionOp.ask q)

def now : DecisionReq ℤ := Prog.perform DecisionOp.now

/-- The row, where the session has no copy of it. -/
def get : DecisionReq DecisionRow := Prog.perform DecisionOp.get

def execute (tested : ActionStatus) : DecisionReq Unit :=
  Prog.perform (DecisionOp.execute tested)

def commit : DecisionReq Unit := Prog.perform DecisionOp.commit

def rollback : DecisionReq Unit := Prog.perform DecisionOp.rollback

/-- `audit_event` and the error that follows. -/
def refuse {α : Type} (message : String) (status : ℕ) : DecisionReq α := do
  commit
  .raise (.auth message status)

/-- The columns are assigned, the required event is written, and the session commits. -/
def storeRequired (tested : ActionStatus) (executes : Bool) (record : Option DecisionRow)
    (change : Change) : DecisionReq Unit := do
  match ← Prog.perform DecisionOp.auditRequired with
  | .committed => Prog.perform (DecisionOp.store tested executes record change)
  | .lost => do
      Prog.perform DecisionOp.lose
      .raise .audit
  | .leftover => do
      Prog.perform (DecisionOp.store tested executes record change)
      .raise .audit

/-! ### Checks -/

def requireActiveRootAdmin : DecisionReq Unit := do
  if ← ask .activeRootAdmin then pure () else refuse "Forbidden" 403

/-- `_expire_admin_action_request_if_stale`. -/
def expireIfStale (row : DecisionRow) : DecisionReq Unit := do
  if row.status ≠ .pending then pure ()
  else
    let checked ← now
    if checked < row.expiresAt then pure ()
    else
      let decidedAt ← now
      storeRequired row.status false (some row) (.expire decidedAt)
      .raise (.auth "Admin action request is expired" 409)

/-- `_pending_admin_action_request_or_error`: the row as the test has found it. -/
def pendingRequestOrError : DecisionReq DecisionRow := do
  let row ← get
  expireIfStale row
  if row.status ≠ .pending then refuse "Admin action request is not pending" 409
  else pure row

def assertHmacValid : DecisionReq Unit := do
  if ← ask .hmacValid then pure ()
  else refuse "Admin action request integrity check failed" 409

def assertRequesterStillEligible : DecisionReq Unit := do
  if ← ask .requesterEligible then pure ()
  else refuse "Admin action requester is no longer eligible" 409

/-- `_verify_totp_for_user`, and the refusal of a wrong code. Every outcome commits. -/
def requireFreshCode : DecisionReq Unit := do
  if ← ask .codeGiven then
    if ← ask .backoff then refuse "Too many failed attempts. Please wait before trying again." 429
    else if ← ask .codeRight then
      if ← ask .replayed then
        rollback
        refuse "Fresh MFA verification is required" 403
      else commit
    else
      commit
      refuse "Fresh MFA verification is required" 403
  else refuse "Fresh MFA verification is required" 403

/-! ### Execution -/

def commitsInside : OperationKind → Bool
  | .recoveryTransition => true
  | .recoveryComplete => true
  | _ => false

/-- `_execute_admin_action_request`: a refusal is audited, the operation needs a required
event, and the operations on manual recovery requests commit. -/
def executeAdminActionRequest (tested : ActionStatus) (kind : OperationKind) :
    DecisionReq Unit := do
  if kind = .unknown then .raise (.auth "Admin action request cannot be executed" 409)
  else if ← ask .operationRefused then refuse "Forbidden" 403
  else if ← ask .operationFails then .raise .operational
  else if commitsInside kind then
    execute tested
    if ← ask .operationFails then .raise .operational else commit
  else pure ()

/-- `_mark_admin_action_request_execution_failed`. -/
def markExecutionFailed (tested : ActionStatus) (actor : ℤ) : DecisionReq Unit := do
  let row ← get
  let decidedAt ← now
  storeRequired tested false (some row) (.fail actor (row.decidedAt.getD decidedAt))

/-- The end of an approval: the copy that is written from is the one the executor has
loaded, unless it has committed. -/
def approveVerified (tested : ActionStatus) (kind : OperationKind) (actor : ℤ) :
    DecisionReq Unit := do
  let row ← get
  (executeAdminActionRequest tested kind).tryCatch fun _ => do
    rollback
    markExecutionFailed tested actor
    .raise (.auth "Admin action request execution failed" 409)
  let decidedAt ← now
  if commitsInside kind then storeRequired tested false none (.execute actor decidedAt)
  else storeRequired tested true (some row) (.execute actor decidedAt)

/-! ### Requests -/

/-- `approve_admin_action_request_as_root_admin`. -/
def approveAsRootAdmin (kind : OperationKind) (actor : ℤ) : DecisionReq Unit := do
  requireActiveRootAdmin
  let row ← pendingRequestOrError
  assertHmacValid
  assertRequesterStillEligible
  if row.requesterId = actor then
    refuse "Requester cannot approve their own admin action request" 403
  else
    requireFreshCode
    approveVerified row.status kind actor

/-- `reject_admin_action_request_as_root_admin`. -/
def rejectAsRootAdmin (actor : ℤ) : DecisionReq Unit := do
  requireActiveRootAdmin
  let row ← pendingRequestOrError
  assertHmacValid
  if row.requesterId = actor then
    refuse "Requester cannot reject their own admin action request" 403
  else
    requireFreshCode
    let decidedAt ← now
    storeRequired row.status false none (.reject actor decidedAt)

/-- `cancel_admin_action_request_as_root_admin`. -/
def cancelAsRootAdmin (actor : ℤ) : DecisionReq Unit := do
  requireActiveRootAdmin
  let row ← pendingRequestOrError
  assertHmacValid
  if row.requesterId ≠ actor then
    refuse "Only the requester can cancel this admin action request" 403
  else
    requireFreshCode
    let decidedAt ← now
    storeRequired row.status false none (.cancel decidedAt)

/-- `_expire_stale_admin_action_requests`, as far as this request is concerned. -/
def reviewForAdmin : DecisionReq Unit := do
  requireActiveRootAdmin
  let checked ← now
  let row ← get
  if row.status = .pending ∧ row.expiresAt ≤ checked then
    storeRequired row.status false (some row) (.expire checked)
  else pure ()
  commit

def detailForAdmin : DecisionReq Unit := do
  requireActiveRootAdmin
  let row ← get
  expireIfStale row
  commit

inductive DecisionRequest
  | approve (actor : ℤ)
  | reject (actor : ℤ)
  | cancel (actor : ℤ)
  | review
  | detail
  deriving DecidableEq, Repr

def DecisionRequest.serve (kind : OperationKind) : DecisionRequest → DecisionReq Unit
  | .approve actor => approveAsRootAdmin kind actor
  | .reject actor => rejectAsRootAdmin actor
  | .cancel actor => cancelAsRootAdmin actor
  | .review => reviewForAdmin
  | .detail => detailForAdmin

abbrev DecisionConf := Conf DecisionOp DecisionRes DecisionError Unit DecisionWorld

/-- The row as `_create_admin_action_request` commits it. -/
def createdRow (r : AdminActionRequest) : DecisionRow :=
  ⟨r.requesterId, r.approverId, r.status, r.expiresAt, none, none⟩

/-- The request has just been made. -/
def decisionStart (cfg : ActionConfig) (n : NewRequest) (requests : ℕ → DecisionRequest) :
    DecisionConf where
  world := ⟨createdRow (createAdminActionRequest cfg n), []⟩
  prog t := (requests t).serve (operationKind n.operation.operationType)

end SitBank.Admin.ActionDecisions
