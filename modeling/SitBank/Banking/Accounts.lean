import SitBank.Banking.Transfers

/-!
The requests that change an account without moving money: freezing
(`freeze_own_account`, `freeze_customer_as_staff`), the lock after repeated
authentication failures (`_lock_user_account`), and the daily limits; with the
one-time-code check they share (`app/auth/services.py`).

Counters, replay records, browser sessions and codes are outside the store. A
branch on them is an `ask`; the commits and the failing statements around them
are kept, because they end the transaction of the caller.
-/

namespace SitBank.Banking

open SitBank.Interaction SitBank.Orm

/-- A statement on a table outside the store. -/
def statement : BankReq Unit := query fun _ => ()

/-! ### Failure counters -/

/-- `record_failure`: the counter is committed; some counts are audited. -/
def recordFailure (user : ℕ) : BankReq Unit := do
  let _ ← loadUser user
  statement
  commit
  let audited ← ask
  if audited then auditEvent none else pure ()

/-- `clear_failures` and `_clear_user_security_failures`: a counter that exists
is deleted and the deletion committed. -/
def clearCounter (user : ℕ) : BankReq Unit := do
  let _ ← loadUser user
  statement
  let exists_ ← ask
  if exists_ then commit else pure ()

def enforceAuthBackoff (user : ℕ) : BankReq Unit := do
  let _ ← loadUser user
  statement
  let blocked ← ask
  if blocked then
    auditEvent none
    raise (.auth "Too many failed attempts. Please wait before trying again." 429)
  else pure ()

def lockUserAccount (user : ℕ) (reason : String) : BankReq Unit := do
  let _ ← loadUser user
  let lockedAt ← now
  assignUser user fun u =>
    { u with
      isFrozen := true, securityLockedAt := some lockedAt, securityLockReason := some reason }
  statement
  auditEventRequired (some user)
  commit

def recordUserSecurityFailure (user : ℕ) (lockReason : String) : BankReq Unit := do
  let _ ← loadUser user
  statement
  commit
  let overThreshold ← ask
  if overThreshold then lockUserAccount user lockReason else pure ()

/-! ### One-time codes -/

inductive TotpVerificationOutcome
  | valid
  | invalid
  | replay
  deriving DecidableEq, Repr

/-- `_verify_totp_for_user_outcome` with `track_failures`. Every answer commits
or rolls back, so the locks of the caller are released. -/
def verifyTotpForUserOutcome (user : ℕ) : BankReq TotpVerificationOutcome := do
  let _ ← loadUser user
  let configured ← ask
  if !configured then raise (.auth "MFA is not configured" 403)
  else
    check (.runtime .mfaSecret)
    let sixDigits ← ask
    if !sixDigits then
      recordFailure user
      pure .invalid
    else
      (enforceAuthBackoff user).tryCatch fun
        | .app (.auth message status) => do
            recordUserSecurityFailure user "mfa_failed_attempts"
            raise (.auth message status)
        | e => .raise e
      let accepted ← ask
      if !accepted then
        recordFailure user
        pure .invalid
      else
        let _ ← loadUser user
        let used ← ask
        if used then
          rollback
          pure .replay
        else
          commit
          clearCounter user
          clearCounter user
          pure .valid

def verifyTotpForUser (user : ℕ) : BankReq Bool := do
  let outcome ← verifyTotpForUserOutcome user
  pure (outcome = .valid)

/-- A rejection of a high-risk action: audited, then raised. -/
def rejectAction {α : Type} (user : ℕ) (message : String) (status : ℕ) : BankReq α := do
  auditEvent (some user)
  raise (.auth message status)

def genericMfaError : String := "Incorrect code. Check your authenticator and try again."

def verifyHighRiskAuthorization (user : ℕ) : BankReq Unit := do
  let stableSession ← ask
  if !stableSession then
    auditEvent none
    raise (.auth "Session verification required. Please sign in again." 401)
  else
    let u ← loadUser user
    if !u.mfaEnabled then rejectAction user "MFA is required for this action" 403
    else
      let codeGiven ← ask
      if !codeGiven then rejectAction user "MFA verification is required for this action" 403
      else
        let outcome ← verifyTotpForUserOutcome user
        match outcome with
        | .replay => rejectAction user genericMfaError 401
        | .invalid =>
            auditEvent (some user)
            recordUserSecurityFailure user "mfa_failed_attempts"
            raise (.auth genericMfaError 401)
        | .valid =>
            auditEvent (some user)
            statement

/-! ### Freezing -/

/-- A notification about the account; delivery failures are audited. -/
def sendAccountNotification (user : ℕ) : BankReq Unit := sendBankingEmail user

/-- `audit_event_required` with the rollback that its callers add. -/
def auditRequiredOrRollback (user : ℕ) : BankReq Unit :=
  (auditEventRequired (some user)).tryCatch fun
    | .app .auditWrite => do
        rollback
        raise .auditWrite
    | e => .raise e

def freezeOwnAccount (user : ℕ) : BankReq Unit := do
  let u ← loadUser user
  ensureAccountNotFrozen u "account freeze"
  verifyHighRiskAuthorization user
  let _ ← loadUser user
  assignUser user fun u => { u with isFrozen := true }
  statement
  auditRequiredOrRollback user
  commit
  sendAccountNotification user

def assertNotSelfCustomerAction (actor : ℕ) : BankReq Unit := do
  statement
  let linked ← ask
  if linked then
    auditReference
    rejectAction actor "This privileged action is not permitted for that customer account" 403
  else pure ()

def freezeCustomerAsStaff (actor target : ℕ) : BankReq Unit := do
  let a ← loadUser actor
  if a.accountType ≠ .staff then rejectAction actor "Forbidden" 403
  else
    let reasonGiven ← ask
    if !reasonGiven then rejectAction actor "Reason is required" 400
    else
      let found ← lockWhere (userById target)
      match found with
      | none =>
          auditReference
          rejectAction actor "Customer account is not eligible for this freeze action" 409
      | some _ =>
          let c ← loadUser target
          if c.accountType ≠ .customer ∨ c.isFrozen ∨ c.accountStatus ≠ .active then
            auditReference
            rejectAction actor "Customer account is not eligible for this freeze action" 409
          else
            assertNotSelfCustomerAction actor
            let codeGiven ← ask
            let verified ← (if codeGiven then verifyTotpForUser actor
              else pure false : BankReq Bool)
            if !verified then
              auditReference
              rejectAction actor "Fresh MFA verification is required" 403
            else
              let _ ← loadUser target
              let lockedAt ← now
              assignUser target fun u =>
                { u with isFrozen := true, securityLockedAt := some lockedAt,
                         securityLockReason := some "staff_fraud_freeze" }
              statement
              auditReference
              auditRequiredOrRollback actor
              commit
              sendAccountNotification target

/-! ### Daily limits -/

def sendTransferLimitChangeNotification (user : ℕ) : BankReq Unit := sendBankingEmail user

/-- `transfer_limits_submit` with the limits that the form resolved to. -/
def transferLimitsSubmit (user : ℕ) (payupLimit localTransferLimit : ℤ) : BankReq Unit :=
  Prog.bind
    ((Prog.bind (verifyHighRiskAuthorization user) fun _ => pure true).tryCatch fun
      | .app (.auth _ _) => do
          sendTransferLimitChangeNotification user
          pure false
      | e => .raise e)
    fun verified =>
      if !verified then pure ()
      else do
        let _ ← loadUser user
        assignUser user fun u =>
          { u with payupDailyLimit := payupLimit, localTransferDailyLimit := localTransferLimit }
        commit
        auditEvent (some user)
        sendTransferLimitChangeNotification user

end SitBank.Banking
