import SitBank.Admin.ActionRequests
import SitBank.Admin.StaffInvites

/-!
Freezes and security locks of customers: the failures that lock an account
(`app/auth/services.py`), the freezes, and the two ways out (`app/admin/services.py`).

Requests run one at a time. What decides about a request and is not part of this
state (passwords, codes, limits, failing audit writes) is in `LockInputs`. Audit
events that may fail without consequences are left out: none of them is written
between a change of an account and its commit.
-/

namespace SitBank.Admin

open SitBank.Interaction SitBank.Python

/-! ### Rows -/

/-- The columns of `users` that locks and reviews read and write. -/
structure LockUser where
  id : ℤ
  email : String
  staffPersonalEmail : String
  accountType : StaffRole
  accountStatus : StaffStatus
  mfaEnabled : Bool
  isFrozen : Bool
  securityLockedAt : Option ℤ
  securityLockReason : Option LockReason
  deriving DecidableEq, Repr

/-- The scopes of `_record_user_security_failure`. -/
inductive FailureScope
  | password
  | mfa
  | passwordChange
  deriving DecidableEq, Repr

structure AuthAttemptCounter where
  failureCount : ℕ
  windowExpiresAt : ℤ

/-- The clock counts microseconds. -/
structure LockWorld where
  clock : ℤ
  users : List LockUser
  counters : ℤ → FailureScope → Option AuthAttemptCounter
  /-- The identity links that are not revoked, from staff to customers. -/
  links : List (ℤ × ℤ)
  requests : List AdminActionRequest
  nextRequestId : ℤ

structure LockConfig extends ActionConfig where
  customerMfaFailureLimit : ℕ
  /-- `is_admin_workplace_email`. -/
  isAdminWorkplaceEmail : String → Bool
  /-- The e-mail is that of a configured root administrator. -/
  isRootAdminEmail : String → Bool
  /-- `_normalized_email`. -/
  normalizedEmail : String → String

/-- How a code fares in `_verify_totp_secret_for_user_outcome`; `blocked` is the
back-off after failures. -/
inductive CodeOutcome
  | missing
  | invalid
  | replayed
  | blocked
  | valid
  deriving DecidableEq, Repr

/-- What reaches one request from outside. -/
structure LockInputs where
  /-- The back-off of the login. -/
  backoff : Bool
  passwordMatches : Bool
  passwordsEqual : Bool
  newPasswordAccepted : Bool
  mfaFailureLimited : Bool
  code : CodeOutcome
  reason : String
  /-- The required event of this type cannot be written. -/
  auditFails : String → Bool
  /-- What the request left unfinished is committed with its browser session. -/
  leftoversCommitted : Bool

inductive LockError
  | auth (message : String) (status : ℕ)
  | frozenAccount (action : String)
  | auditWrite
  deriving DecidableEq, Repr

abbrev LockCall (α : Type) := Call LockWorld LockError α

def genericLoginError : LockError := .auth "Invalid username or password" 401

def genericMfaError (status : ℕ) : LockError :=
  .auth "Incorrect code. Check your authenticator and try again." status

def authBackoffError : LockError :=
  .auth "Too many failed attempts. Please wait before trying again." 429

def accountAuthUnavailableError : LockError :=
  .auth "Authentication unavailable for this account" 403

def freshMfaRequiredError : LockError := .auth "Fresh MFA verification is required" 403

def forbiddenError : LockError := .auth "Forbidden" 403

/-! ### Helpers -/

def lockUserById (id : ℤ) (w : LockWorld) : Option LockUser := w.users.find? fun u => u.id = id

def userOrError (id : ℤ) (error : LockError) : LockCall LockUser := do
  let w ← get
  match lockUserById id w with
  | some user => pure user
  | none => throw error

def updateUser (id : ℤ) (f : LockUser → LockUser) (w : LockWorld) : LockWorld :=
  { w with users := w.users.map fun u => if u.id = id then f u else u }

def setCounter (userId : ℤ) (scope : FailureScope) (counter : Option AuthAttemptCounter)
    (w : LockWorld) : LockWorld :=
  { w with counters := fun id s => if id = userId ∧ s = scope then counter else w.counters id s }

/-- A required event; without it, the changes since `committed` are lost unless the
session commits them. -/
def requireEvent (inputs : LockInputs) (committed : LockWorld) (eventType : String) :
    LockCall Unit :=
  if inputs.auditFails eventType then do
    if inputs.leftoversCommitted then pure () else set committed
    throw .auditWrite
  else pure ()

/-! ### Failures -/

/-- `AUTH_LOCK_WINDOW_SECONDS`, in microseconds. -/
def authLockWindow : ℤ := 15 * 60 * 1000000

def authLockThreshold : ℕ := 10

def userSecurityLockThreshold (cfg : LockConfig) (user : LockUser) (scope : FailureScope) : ℕ :=
  match scope with
  | .password => if user.accountType = .customer then 3 else 2
  | .mfa => max authLockThreshold (cfg.customerMfaFailureLimit + 2)
  | .passwordChange => authLockThreshold

/-- The failures in the window, with this one. -/
def failureAttempts (w : LockWorld) (userId : ℤ) (scope : FailureScope) : ℕ :=
  match w.counters userId scope with
  | none => 1
  | some counter => if counter.windowExpiresAt ≤ w.clock then 1 else counter.failureCount + 1

def lockFields (reason : LockReason) (now : ℤ) (user : LockUser) : LockUser :=
  { user with isFrozen := true, securityLockedAt := some now, securityLockReason := some reason }

def lockUserAccount (inputs : LockInputs) (userId : ℤ) (reason : LockReason) : LockCall Unit := do
  let committed ← get
  modify (updateUser userId (lockFields reason committed.clock))
  requireEvent inputs committed "account_lock"

def recordUserSecurityFailure (cfg : LockConfig) (inputs : LockInputs) (user : LockUser)
    (scope : FailureScope) (reason : LockReason) : LockCall Unit := do
  let w ← get
  let attempts := failureAttempts w user.id scope
  modify (setCounter user.id scope (some ⟨attempts, w.clock + authLockWindow⟩))
  if userSecurityLockThreshold cfg user scope ≤ attempts then
    lockUserAccount inputs user.id reason
  else pure ()

def ensureAccountNotFrozen (user : LockUser) (action : String) : LockCall Unit :=
  raiseIf (user.isFrozen || user.securityLockedAt.isSome) (.frozenAccount action)

/-- `_verify_totp_for_user_outcome`. -/
def verifyTotpForUserOutcome (cfg : LockConfig) (inputs : LockInputs) (user : LockUser) :
    LockCall CodeOutcome :=
  match inputs.code with
  | .blocked => do
      recordUserSecurityFailure cfg inputs user .mfa .mfaFailedAttempts
      throw authBackoffError
  | .valid => do
      modify (setCounter user.id .mfa none)
      pure .valid
  | outcome => pure outcome

/-- `not totp_code or not _verify_totp_for_user(actor, totp_code, ...)`. -/
def requireFreshCode (cfg : LockConfig) (inputs : LockInputs) (actor : LockUser) :
    LockCall Unit := do
  raiseIf (inputs.code = .missing) freshMfaRequiredError
  let outcome ← verifyTotpForUserOutcome cfg inputs actor
  raiseIf (outcome ≠ .valid) freshMfaRequiredError

def verifyHighRiskAuthorization (cfg : LockConfig) (inputs : LockInputs) (user : LockUser) :
    LockCall Unit := do
  raiseIf (!user.mfaEnabled) (.auth "MFA is required for this action" 403)
  raiseIf (inputs.code = .missing) (.auth "MFA verification is required for this action" 403)
  let outcome ← verifyTotpForUserOutcome cfg inputs user
  match outcome with
  | .valid => pure ()
  | .replayed => throw (genericMfaError 401)
  | _ => do
      recordUserSecurityFailure cfg inputs user .mfa .mfaFailedAttempts
      throw (genericMfaError 401)

/-! ### Customers -/

/-- `_enforce_customer_login_account_state`. -/
def enforceCustomerLoginAccountState (user : LockUser) : LockCall Unit :=
  if user.securityLockedAt.isSome && (user.securityLockReason = some .passwordFailedAttempts ||
      user.securityLockReason = some .mfaFailedAttempts) then
    throw genericLoginError
  else if user.isFrozen then throw accountAuthUnavailableError
  else raiseIf user.securityLockedAt.isSome genericLoginError

def authenticatePrimary (cfg : LockConfig) (inputs : LockInputs) (userId : ℤ) : LockCall Unit := do
  raiseIf inputs.backoff authBackoffError
  let user ← userOrError userId genericLoginError
  raiseIf (user.accountType ≠ .customer) genericLoginError
  if inputs.passwordMatches then do
    enforceCustomerLoginAccountState user
    if user.mfaEnabled then pure () else modify (setCounter user.id .password none)
  else do
    recordUserSecurityFailure cfg inputs user .password .passwordFailedAttempts
    throw genericLoginError

/-- `_staff_user_by_workplace_email` finds members of the staff only. -/
def authenticateAdminPrimary (cfg : LockConfig) (inputs : LockInputs) (userId : ℤ) :
    LockCall Unit := do
  raiseIf inputs.backoff authBackoffError
  let user ← userOrError userId genericLoginError
  raiseIf (user.accountType = .customer) genericLoginError
  if inputs.passwordMatches then pure ()
  else do
    recordUserSecurityFailure cfg inputs user .password .passwordFailedAttempts
    throw genericLoginError

def completePendingMfa (cfg : LockConfig) (inputs : LockInputs) (userId : ℤ) : LockCall Unit := do
  let user ← userOrError userId (.auth "No pending MFA challenge" 401)
  raiseIf (!user.mfaEnabled) (.auth "No pending MFA challenge" 401)
  raiseIf (user.isFrozen || user.securityLockedAt.isSome) accountAuthUnavailableError
  raiseIf inputs.mfaFailureLimited (genericMfaError 429)
  match inputs.code with
  | .valid => do
      modify (setCounter user.id .password none)
      modify (setCounter user.id .mfa none)
  | .replayed => throw (genericMfaError 401)
  | _ => do
      recordUserSecurityFailure cfg inputs user .mfa .mfaFailedAttempts
      throw (genericMfaError 401)

def changePassword (cfg : LockConfig) (inputs : LockInputs) (userId : ℤ) : LockCall Unit := do
  let user ← userOrError userId genericLoginError
  raiseIf (user.accountType ≠ .customer) forbiddenError
  ensureAccountNotFrozen user "password change"
  raiseIf (!inputs.passwordsEqual) (.auth "Passwords must match" 400)
  if inputs.passwordMatches then do
    raiseIf (!inputs.newPasswordAccepted)
      (.auth "New password must not match your current or recent passwords" 400)
    verifyHighRiskAuthorization cfg inputs user
    modify (setCounter user.id .passwordChange none)
  else do
    recordUserSecurityFailure cfg inputs user .passwordChange .passwordChangeFailedAttempts
    throw (.auth "Current password is invalid" 401)

/-- The password change of the staff, which does not ask for a freeze. -/
def changeOwnPassword (cfg : LockConfig) (inputs : LockInputs) (userId : ℤ) : LockCall Unit := do
  let actor ← userOrError userId forbiddenError
  raiseIf (actor.accountType = .customer) forbiddenError
  raiseIf (!inputs.passwordsEqual) (.auth "Passwords must match" 400)
  if inputs.passwordMatches then do
    raiseIf (!inputs.newPasswordAccepted)
      (.auth "New password must not match your current or recent passwords" 400)
    requireFreshCode cfg inputs actor
    modify (setCounter actor.id .passwordChange none)
  else do
    recordUserSecurityFailure cfg inputs actor .passwordChange .passwordChangeFailedAttempts
    throw (.auth "Current password is invalid" 401)

/-- Any other action of a user that asks for a code. -/
def authorizeAction (cfg : LockConfig) (inputs : LockInputs) (userId : ℤ) : LockCall Unit := do
  let user ← userOrError userId genericLoginError
  verifyHighRiskAuthorization cfg inputs user

def freezeOwnAccount (cfg : LockConfig) (inputs : LockInputs) (userId : ℤ) : LockCall Unit := do
  let user ← userOrError userId genericLoginError
  ensureAccountNotFrozen user "account freeze"
  verifyHighRiskAuthorization cfg inputs user
  let committed ← get
  modify (updateUser user.id fun u => { u with isFrozen := true })
  -- this caller rolls back itself
  if inputs.auditFails "account_freeze" then do
    set committed
    throw .auditWrite
  else pure ()

/-! ### Reviews by the staff -/

def isPlainStaffUser (user : LockUser) : Bool := user.accountType = .staff

def requireReason (inputs : LockInputs) : LockCall Unit := do
  let text := strip inputs.reason.toList
  raiseIf text.isEmpty (.auth "Reason is required" 400)
  raiseIf (512 < text.length) (.auth "Reason is too long" 400)

/-- `assert_not_self_customer_action` blocks. -/
def selfCustomerAction (cfg : LockConfig) (w : LockWorld) (actor target : LockUser) : Bool :=
  actor.accountType = .customer || target.accountType ≠ .customer ||
    w.links.contains (actor.id, target.id) ||
    (cfg.normalizedEmail target.email ≠ "" &&
      [cfg.normalizedEmail actor.email, cfg.normalizedEmail actor.staffPersonalEmail].contains
        (cfg.normalizedEmail target.email))

def assertNotSelfCustomerAction (cfg : LockConfig) (actor target : LockUser) : LockCall Unit := do
  let w ← get
  raiseIf (selfCustomerAction cfg w actor target)
    (.auth "This privileged action is not permitted for that customer account" 403)

def isVoluntaryCustomerSelfFreeze (user : LockUser) : Bool :=
  user.accountType = .customer && user.isFrozen && user.securityLockReason.isNone

/-- The target of a review, when the test accepts it. -/
def eligibleCustomer (targetUserId : ℤ) (eligible : LockUser → Bool) (error : LockError) :
    LockCall LockUser := do
  let target ← userOrError targetUserId error
  raiseIf (!eligible target) error
  pure target

def selfFrozenCustomerForUpdate (targetUserId : ℤ) : LockCall LockUser :=
  eligibleCustomer targetUserId isVoluntaryCustomerSelfFreeze
    (.auth "Customer account is not eligible for this unfreeze action" 409)

def unfreezeCustomerAsStaff (cfg : LockConfig) (inputs : LockInputs) (actorId targetUserId : ℤ) :
    LockCall Unit := do
  let actor ← userOrError actorId forbiddenError
  raiseIf (!isPlainStaffUser actor) forbiddenError
  requireReason inputs
  let target ← selfFrozenCustomerForUpdate targetUserId
  assertNotSelfCustomerAction cfg actor target
  requireFreshCode cfg inputs actor
  let committed ← get
  modify (updateUser target.id fun u => { u with isFrozen := false })
  requireEvent inputs committed "customer_self_freeze_unlock"

def activeCustomerForFreezeUpdate (targetUserId : ℤ) : LockCall LockUser :=
  eligibleCustomer targetUserId
    (fun u => u.accountType = .customer && !u.isFrozen && u.accountStatus = .active)
    (.auth "Customer account is not eligible for this freeze action" 409)

def freezeCustomerAsStaff (cfg : LockConfig) (inputs : LockInputs) (actorId targetUserId : ℤ) :
    LockCall Unit := do
  let actor ← userOrError actorId forbiddenError
  raiseIf (!isPlainStaffUser actor) forbiddenError
  requireReason inputs
  let target ← activeCustomerForFreezeUpdate targetUserId
  assertNotSelfCustomerAction cfg actor target
  requireFreshCode cfg inputs actor
  let committed ← get
  modify (updateUser target.id (lockFields .staffFraudFreeze committed.clock))
  -- this caller rolls back itself
  if inputs.auditFails "customer_freeze_as_staff" then do
    set committed
    throw .auditWrite
  else pure ()

/-! ### Reviews by root administrators -/

/-- `ROOT_ADMIN_REVIEWABLE_LOCK_REASONS`. -/
def rootAdminReviewableLockReasons : List LockReason :=
  [.passwordFailedAttempts, .mfaFailedAttempts, .staffFraudFreeze]

def isActiveRootAdmin (cfg : LockConfig) (user : LockUser) : Bool :=
  user.accountType = .rootAdmin && user.accountStatus = .active && user.mfaEnabled &&
    cfg.isAdminWorkplaceEmail user.email && cfg.isRootAdminEmail user.email

def activeRootAdmin (cfg : LockConfig) (actorId : ℤ) : LockCall LockUser := do
  let actor ← userOrError actorId forbiddenError
  raiseIf (!isActiveRootAdmin cfg actor) forbiddenError
  pure actor

/-- The test of `_locked_customer_for_update`. -/
def isLockedCustomer (user : LockUser) : Bool :=
  user.accountType = .customer && user.isFrozen && user.securityLockedAt.isSome &&
    user.securityLockReason.any rootAdminReviewableLockReasons.contains

def lockedCustomerForUpdate (targetUserId : ℤ) : LockCall LockUser :=
  eligibleCustomer targetUserId isLockedCustomer
    (.auth "Customer security lock is not eligible for unlock" 409)

/-- The row of `_create_admin_action_request` is added. -/
def addRequest (cfg : LockConfig) (n : NewRequest) (w : LockWorld) : LockWorld :=
  { w with
    requests := w.requests ++ [createAdminActionRequest cfg.toActionConfig n]
    nextRequestId := w.nextRequestId + 1 }

def requestCustomerSecurityUnlock (cfg : LockConfig) (inputs : LockInputs)
    (actorId targetUserId : ℤ) : LockCall ℤ := do
  let actor ← activeRootAdmin cfg actorId
  requireReason inputs
  let target ← lockedCustomerForUpdate targetUserId
  assertNotSelfCustomerAction cfg actor target
  requireFreshCode cfg inputs actor
  let committed ← get
  modify (addRequest cfg
    { operation := .securityUnlock target.securityLockReason target.securityLockedAt
      targetId := target.id
      id := committed.nextRequestId
      requesterId := actor.id
      requesterRole := "root_admin"
      reason := inputs.reason
      now := committed.clock })
  requireEvent inputs committed "admin_action_request_created"
  pure committed.nextRequestId

def setRequest (id : ℤ) (f : AdminActionRequest → AdminActionRequest) (w : LockWorld) :
    LockWorld :=
  { w with requests := w.requests.map fun r => if r.id = id then f r else r }

def decided (approver : Option ℤ) (status : ActionStatus) (r : AdminActionRequest) :
    AdminActionRequest :=
  { r with approverId := approver, status := status }

/-- `_pending_admin_action_request_or_error`, which also expires the request. -/
def pendingRequestOrError (inputs : LockInputs) (requestId : ℤ) :
    LockCall AdminActionRequest := do
  let w ← get
  match w.requests.find? fun r => r.id = requestId with
  | none => throw (.auth "Admin action request not found" 404)
  | some r =>
      if r.status = .pending && r.expiresAt ≤ w.clock then do
        modify (setRequest r.id fun r => { r with status := .expired })
        requireEvent inputs w "admin_action_request_expired"
        throw (.auth "Admin action request is expired" 409)
      else do
        raiseIf (r.status ≠ .pending) (.auth "Admin action request is not pending" 409)
        pure r

/-- The request of an approval, a rejection or a cancellation. -/
def signedPendingRequest (cfg : LockConfig) (inputs : LockInputs) (requestId : ℤ) :
    LockCall AdminActionRequest := do
  let r ← pendingRequestOrError inputs requestId
  raiseIf (!hmacValid cfg.toActionConfig r)
    (.auth "Admin action request integrity check failed" 409)
  pure r

def unlockFields (user : LockUser) : LockUser :=
  { user with isFrozen := false, securityLockedAt := none, securityLockReason := none }

/-- The lock in force, in the words of the payload. -/
def currentLockTexts (ops : TextOps) (user : LockUser) : PyStr × PyStr :=
  (ops.casefold (.ofString (match user.securityLockReason with
      | none => ""
      | some reason => reason.text)),
    ops.casefold (.ofString (lockedAtText user.securityLockedAt)))

def executeCustomerSecurityUnlock (cfg : LockConfig) (inputs : LockInputs) (actor : LockUser)
    (r : AdminActionRequest) : LockCall Unit := do
  let w ← get
  let targetId := ((w.users.find? fun u => idText u.id = r.targetId).map (·.id)).getD 0
  let target ← lockedCustomerForUpdate targetId
  assertNotSelfCustomerAction cfg actor target
  raiseIf (currentLockTexts cfg.toTextOps target ≠
      (payloadText cfg.toTextOps r lockReasonKey, payloadText cfg.toTextOps r lockedAtKey))
    (.auth "Customer security lock state changed" 409)
  modify (setCounter target.id .password none)
  modify (setCounter target.id .mfa none)
  modify (updateUser target.id unlockFields)
  requireEvent inputs w "customer_security_unlock_completed"

/-- The request is marked after the rollback. -/
def markExecutionFailed (inputs : LockInputs) (committed : LockWorld) (actor : LockUser)
    (requestId : ℤ) : LockCall Unit := do
  set committed
  modify (setRequest requestId (decided (some actor.id) .executionFailed))
  requireEvent inputs committed "admin_action_request_execute"
  throw (.auth "Admin action request execution failed" 409)

def approveAdminActionRequest (cfg : LockConfig) (inputs : LockInputs) (actorId requestId : ℤ) :
    LockCall Unit := do
  let actor ← activeRootAdmin cfg actorId
  let r ← signedPendingRequest cfg inputs requestId
  let w ← get
  raiseIf (!(lockUserById r.requesterId w).any (isActiveRootAdmin cfg))
    (.auth "Admin action requester is no longer eligible" 409)
  raiseIf (r.requesterId = actor.id)
    (.auth "Requester cannot approve their own admin action request" 403)
  requireFreshCode cfg inputs actor
  let committed ← get
  tryCatch (executeCustomerSecurityUnlock cfg inputs actor r)
    fun _ => markExecutionFailed inputs committed actor requestId
  modify (setRequest requestId (decided (some actor.id) .executed))
  requireEvent inputs committed "admin_action_request_executed"

def rejectAdminActionRequest (cfg : LockConfig) (inputs : LockInputs) (actorId requestId : ℤ) :
    LockCall Unit := do
  let actor ← activeRootAdmin cfg actorId
  let r ← signedPendingRequest cfg inputs requestId
  raiseIf (r.requesterId = actor.id)
    (.auth "Requester cannot reject their own admin action request" 403)
  requireFreshCode cfg inputs actor
  let committed ← get
  modify (setRequest requestId (decided (some actor.id) .rejected))
  requireEvent inputs committed "admin_action_request_rejected"

def cancelAdminActionRequest (cfg : LockConfig) (inputs : LockInputs) (actorId requestId : ℤ) :
    LockCall Unit := do
  let actor ← activeRootAdmin cfg actorId
  let r ← signedPendingRequest cfg inputs requestId
  raiseIf (r.requesterId ≠ actor.id)
    (.auth "Only the requester can cancel this admin action request" 403)
  requireFreshCode cfg inputs actor
  let committed ← get
  modify (setRequest requestId fun r => { r with status := .cancelled })
  requireEvent inputs committed "admin_action_request_cancelled"

/-! ### The queues -/

/-- `self_frozen_customers_for_staff`. -/
def selfFrozenCustomersForStaff (w : LockWorld) : List LockUser :=
  w.users.filter isVoluntaryCustomerSelfFreeze

/-- `locked_customers_for_admin`. -/
def lockedCustomersForAdmin (w : LockWorld) : List LockUser := w.users.filter isLockedCustomer

/-! ### Requests -/

inductive LockOp
  | login (inputs : LockInputs) (userId : ℤ)
  | adminLogin (inputs : LockInputs) (userId : ℤ)
  | mfa (inputs : LockInputs) (userId : ℤ)
  | changePassword (inputs : LockInputs) (userId : ℤ)
  | changeOwnPassword (inputs : LockInputs) (userId : ℤ)
  | authorize (inputs : LockInputs) (userId : ℤ)
  | selfFreeze (inputs : LockInputs) (userId : ℤ)
  | staffFreeze (inputs : LockInputs) (actorId targetUserId : ℤ)
  | staffUnfreeze (inputs : LockInputs) (actorId targetUserId : ℤ)
  | requestUnlock (inputs : LockInputs) (actorId targetUserId : ℤ)
  | approve (inputs : LockInputs) (actorId requestId : ℤ)
  | reject (inputs : LockInputs) (actorId requestId : ℤ)
  | cancel (inputs : LockInputs) (actorId requestId : ℤ)
  /-- A new account. -/
  | register (id : ℤ) (email : String) (accountType : StaffRole)
  /-- Another request changes a user, but neither the type nor the locks of the
  account. -/
  | edit (userId : ℤ) (email staffPersonalEmail : String) (accountStatus : StaffStatus)
      (mfaEnabled : Bool)
  | link (links : List (ℤ × ℤ))
  | wait (time : ℕ)

def newAccount (id : ℤ) (email : String) (accountType : StaffRole) : LockUser where
  id := id
  email := email
  staffPersonalEmail := ""
  accountType := accountType
  accountStatus := .active
  mfaEnabled := false
  isFrozen := false
  securityLockedAt := none
  securityLockReason := none

def LockOp.call (cfg : LockConfig) : LockOp → LockCall Unit
  | .login inputs userId => authenticatePrimary cfg inputs userId
  | .adminLogin inputs userId => authenticateAdminPrimary cfg inputs userId
  | .mfa inputs userId => completePendingMfa cfg inputs userId
  | .changePassword inputs userId => Admin.changePassword cfg inputs userId
  | .changeOwnPassword inputs userId => Admin.changeOwnPassword cfg inputs userId
  | .authorize inputs userId => authorizeAction cfg inputs userId
  | .selfFreeze inputs userId => freezeOwnAccount cfg inputs userId
  | .staffFreeze inputs actorId targetId => freezeCustomerAsStaff cfg inputs actorId targetId
  | .staffUnfreeze inputs actorId targetId => unfreezeCustomerAsStaff cfg inputs actorId targetId
  | .requestUnlock inputs actorId targetId =>
      discard (requestCustomerSecurityUnlock cfg inputs actorId targetId)
  | .approve inputs actorId requestId => approveAdminActionRequest cfg inputs actorId requestId
  | .reject inputs actorId requestId => rejectAdminActionRequest cfg inputs actorId requestId
  | .cancel inputs actorId requestId => cancelAdminActionRequest cfg inputs actorId requestId
  | .register id email accountType => modify fun w =>
      if (lockUserById id w).isSome then w
      else { w with users := w.users ++ [newAccount id email accountType] }
  | .edit userId email personal status mfaEnabled => modify (updateUser userId fun u =>
      { u with
        email := email, staffPersonalEmail := personal, accountStatus := status
        mfaEnabled := mfaEnabled })
  | .link links => modify fun w => { w with links := links }
  | .wait time => modify fun w => { w with clock := w.clock + time }

end SitBank.Admin
