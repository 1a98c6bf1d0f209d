import SitBank.Admin.CustomerLocks
import SitBank.Interaction.Machine
import SitBank.Interaction.RowLock

/-!
Freezes, locks and unlocks of one customer, with other sessions in between
(`app/auth/services.py`, `app/admin/services.py`).

The reviews of `CustomerLocks` are taken apart into what one session does in one
transaction. A review locks the row of the customer and looks at it. The check of
the reviewer's code commits, which ends the lock; what is assigned afterwards is
written whatever the row has become, because the loaded copy has expired. The
execution of an unlock request locks the row after that check and keeps the lock.

Tests that do not read the lock columns are questions with any answer.
-/

namespace SitBank.Admin.LockReviews

open SitBank.Interaction SitBank.Python

/-! ### The row -/

inductive Change
  | lock (reason : LockReason) (lockedAt : ℕ)
  | freeze
  | unfreeze
  | unlock
  deriving DecidableEq, Repr

/-- The columns that the code assigns. -/
def Change.assign : Change → LockUser → LockUser
  | .lock reason lockedAt, u => lockFields reason lockedAt u
  | .freeze, u => { u with isFrozen := true }
  | .unfreeze, u => { u with isFrozen := false }
  | .unlock, u => unlockFields u

/-- The row after the `UPDATE` of a session. Without a loaded copy every assigned
column is written. -/
def Change.write (record : Option LockUser) (change : Change) (row : LockUser) : LockUser :=
  match record with
  | none => change.assign row
  | some old => { row with
      isFrozen := written old.isFrozen (change.assign old).isFrozen row.isFrozen
      securityLockedAt :=
        written old.securityLockedAt (change.assign old).securityLockedAt row.securityLockedAt
      securityLockReason :=
        written old.securityLockReason (change.assign old).securityLockReason
          row.securityLockReason }

/-- An `UPDATE` of the row has been committed. -/
structure RowCommit where
  session : ℕ
  before : LockUser
  after : LockUser
  deriving DecidableEq, Repr

/-- The clock counts microseconds. `requests` are the unlock requests as they were
made, `reviewing` the unfreezes that have found a voluntary freeze and are not
finished. -/
structure ReviewWorld where
  row : LockUser
  holder : Option ℕ
  clock : ℕ
  requests : List NewRequest
  reviewing : List ℕ
  commits : List RowCommit

/-! ### Statements -/

inductive ReviewError
  | auth
  | operational
  deriving DecidableEq, Repr

inductive Question
  | refused
  | selfAction
  | codeGiven
  | backoff
  | codeRight
  | replayed
  | thresholdReached
  | undecided
  deriving DecidableEq, Repr

inductive ReviewOp
  | ask (q : Question)
  | now
  | get
  | lock (unfreeze : Bool)
  | load (number : ℕ)
  | request (actorId : ℤ) (reason : String) (target : LockUser) (now : ℕ)
  | update (record : Option LockUser) (change : Change)
  | commit
  | rollback
  | close

def ReviewRes : ReviewOp → Type
  | .ask _ => Bool
  | .now => ℕ
  | .get => LockUser
  | .lock _ => LockUser
  | .load _ => Option AdminActionRequest
  | _ => Unit

abbrev ReviewReq (α : Type) := Prog ReviewOp ReviewRes ReviewError α

/-- What becomes of changes: they are committed, lost with an error, or committed by
the browser session after an error. -/
inductive Fate
  | committed
  | lost
  | leftover

structure ReviewChoice where
  yes : Bool
  delay : ℕ
  fate : Fate

namespace ReviewWorld

variable (w : ReviewWorld) (t : ℕ)

def release : ReviewWorld := { w with holder := released w.holder t }

/-- `with_for_update()`. -/
def lockRow (unfreeze : Bool) : ReviewWorld := { w with
  holder := some t
  reviewing := if unfreeze && isVoluntaryCustomerSelfFreeze w.row then w.reviewing ++ [t]
    else w.reviewing }

/-- `_create_admin_action_request`, with the commit. -/
def addRequest (actorId : ℤ) (reason : String) (target : LockUser) (now : ℕ) : ReviewWorld :=
  release { w with requests := w.requests ++
    [{ operation := .securityUnlock target.securityLockReason target.securityLockedAt
       targetId := target.id
       id := w.requests.length
       requesterId := actorId
       requesterRole := "root_admin"
       reason := reason
       now := now }] } t

/-- `UPDATE` and `COMMIT`. -/
def store (record : Option LockUser) (change : Change) : ReviewWorld :=
  release { w with
    row := change.write record w.row
    reviewing := w.reviewing.filter (· ≠ t)
    commits := w.commits ++ [⟨t, w.row, change.write record w.row⟩] } t

end ReviewWorld

def reviewExec (cfg : LockConfig) :
    Exec ReviewOp ReviewRes ReviewError ReviewWorld ReviewChoice := fun t o c w =>
  match o with
  | .ask _ => some (.ok c.yes, w)
  | .now => some (.ok (w.clock + c.delay), { w with clock := w.clock + c.delay })
  | .get => some (.ok w.row, w)
  | .lock unfreeze =>
      if waits w.holder t then none else some (.ok w.row, w.lockRow t unfreeze)
  | .load number =>
      some (.ok ((w.requests[number]?).map (createAdminActionRequest cfg.toActionConfig)), w)
  | .request actorId reason target now =>
      match c.fate with
      | .committed => some (.ok (), w.addRequest t actorId reason target now)
      | .lost => some (.error .operational, w.release t)
      | .leftover => some (.error .operational, w.addRequest t actorId reason target now)
  | .update record change =>
      if waits w.holder t then none
      else match c.fate with
        | .committed => some (.ok (), w.store t record change)
        | .lost => some (.error .operational, w.release t)
        | .leftover => some (.error .operational, w.store t record change)
  | .commit =>
      match c.fate with
      | .committed => some (.ok (), w.release t)
      | _ => some (.error .operational, w.release t)
  | .rollback => some (.ok (), w.release t)
  | .close => some (.ok (), { w.release t with reviewing := w.reviewing.filter (· ≠ t) })

def ask (q : Question) : ReviewReq Bool := Prog.perform (ReviewOp.ask q)

def now : ReviewReq ℕ := Prog.perform ReviewOp.now

/-- The first use of the row after a commit. -/
def get : ReviewReq LockUser := Prog.perform ReviewOp.get

def lock (unfreeze : Bool) : ReviewReq LockUser := Prog.perform (ReviewOp.lock unfreeze)

def load (number : ℕ) : ReviewReq (Option AdminActionRequest) :=
  Prog.perform (ReviewOp.load number)

def update (record : Option LockUser) (change : Change) : ReviewReq Unit :=
  Prog.perform (ReviewOp.update record change)

def commit : ReviewReq Unit := Prog.perform ReviewOp.commit

def rollback : ReviewReq Unit := Prog.perform ReviewOp.rollback

def close : ReviewReq Unit := Prog.perform ReviewOp.close

def deny {α : Type} : ReviewReq α := .raise .auth

/-! ### Failures -/

def FailureScope.lockReason : FailureScope → LockReason
  | .password => .passwordFailedAttempts
  | .mfa => .mfaFailedAttempts
  | .passwordChange => .passwordChangeFailedAttempts

/-- `_lock_user_account`. Only the threshold for passwords has loaded the row. -/
def lockUserAccount (scope : FailureScope) : ReviewReq Unit :=
  match scope with
  | .password => do
      let user ← get
      let lockedAt ← now
      update (some user) (.lock (FailureScope.lockReason .password) lockedAt)
  | scope => do
      let lockedAt ← now
      update none (.lock (FailureScope.lockReason scope) lockedAt)

/-- `_record_user_security_failure`. -/
def recordUserSecurityFailure (scope : FailureScope) : ReviewReq Unit := do
  commit
  if ← ask .thresholdReached then lockUserAccount scope else pure ()

def failedAttempt (scope : FailureScope) : ReviewReq Unit := do
  recordUserSecurityFailure scope
  deny

/-! ### Codes -/

/-- `_verify_totp_for_user`, for a member of the staff. -/
def requireFreshCode : ReviewReq Unit := do
  if ← ask .codeGiven then
    if ← ask .backoff then
      commit
      deny
    else if ← ask .codeRight then
      if ← ask .replayed then
        rollback
        deny
      else commit
    else
      commit
      deny
  else deny

/-- `verify_high_risk_authorization`, for the customer. -/
def verifyHighRiskAuthorization : ReviewReq Unit := do
  if ← ask .codeGiven then
    if ← ask .backoff then failedAttempt .mfa
    else if ← ask .codeRight then
      if ← ask .replayed then
        rollback
        deny
      else commit
    else failedAttempt .mfa
  else deny

/-! ### Freezes -/

def freezeOwnAccount : ReviewReq Unit := do
  let user ← get
  if user.isFrozen || user.securityLockedAt.isSome then deny
  else
    verifyHighRiskAuthorization
    update none .freeze

def freezeCustomerAsStaff : ReviewReq Unit := do
  if ← ask .refused then deny
  else
    let target ← lock false
    if target.accountType = .customer && !target.isFrozen && target.accountStatus = .active then
      if ← ask .selfAction then deny
      else
        requireFreshCode
        let lockedAt ← now
        update none (.lock .staffFraudFreeze lockedAt)
    else deny

def unfreezeCustomerAsStaff : ReviewReq Unit := do
  if ← ask .refused then deny
  else
    let target ← lock true
    if isVoluntaryCustomerSelfFreeze target then
      if ← ask .selfAction then deny
      else
        requireFreshCode
        update none .unfreeze
    else deny

/-! ### Unlock requests -/

/-- What is recorded is read after the code has been checked. -/
def requestCustomerSecurityUnlock (actorId : ℤ) (reason : String) : ReviewReq Unit := do
  if ← ask .refused then deny
  else
    let target ← lock false
    if isLockedCustomer target then
      if ← ask .selfAction then deny
      else
        requireFreshCode
        let target ← get
        let createdAt ← now
        Prog.perform (ReviewOp.request actorId reason target createdAt)
    else deny

/-- `_execute_customer_security_unlock_admin_action_request`. -/
def executeCustomerSecurityUnlock (ops : TextOps) (r : AdminActionRequest) : ReviewReq Unit := do
  let target ← lock false
  if isLockedCustomer target then
    if ← ask .selfAction then deny
    else if currentLockTexts ops target =
        (payloadText ops r lockReasonKey, payloadText ops r lockedAtKey) then
      update (some target) .unlock
    else deny
  else deny

/-- `approve_admin_action_request_as_root_admin`. -/
def approveUnlock (ops : TextOps) (number : ℕ) : ReviewReq Unit := do
  if ← ask .refused then deny
  else
    match ← load number with
    | none => deny
    | some r => do
        if ← ask .undecided then
          requireFreshCode
          (executeCustomerSecurityUnlock ops r).tryCatch fun e => do
            rollback
            commit
            .raise e
        else deny

/-! ### Requests -/

inductive ReviewRequest
  | failure (scope : FailureScope)
  | selfFreeze
  | staffFreeze
  | unfreeze
  | requestUnlock (actorId : ℤ) (reason : String)
  | approve (number : ℕ)
  deriving DecidableEq, Repr

def ReviewRequest.handler (ops : TextOps) : ReviewRequest → ReviewReq Unit
  | .failure scope => failedAttempt scope
  | .selfFreeze => freezeOwnAccount
  | .staffFreeze => freezeCustomerAsStaff
  | .unfreeze => unfreezeCustomerAsStaff
  | .requestUnlock actorId reason => requestCustomerSecurityUnlock actorId reason
  | .approve number => approveUnlock ops number

def ReviewRequest.serve (ops : TextOps) (request : ReviewRequest) : ReviewReq Unit := do
  (request.handler ops).tryCatch fun e => do
    close
    .raise e
  close

abbrev ReviewConf := Conf ReviewOp ReviewRes ReviewError Unit ReviewWorld

/-- A user without freeze and lock, and any number of requests that have not
started. -/
def reviewStart (cfg : LockConfig) (user : LockUser) (requests : ℕ → ReviewRequest) :
    ReviewConf where
  world :=
    { row := unlockFields user
      holder := none
      clock := 0
      requests := []
      reviewing := []
      commits := [] }
  prog t := (requests t).serve cfg.toTextOps

end SitBank.Admin.LockReviews
