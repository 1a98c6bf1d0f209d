import SitBank.Interaction.Machine
import SitBank.Interaction.RowLock

/-!
The counters of failed verifications.

Three kinds of row carry such a counter: a reset transaction
(`app/auth/password_reset.py`), a top-up request (`app/banking/routes.py` and
`topup_tokens.py`) and a staff invite (`app/admin/services.py`). This is the model
of one row of one kind and of all requests that read or write it. Of the row it
keeps the counter and what the tests read that decide whether codes are still
verified against it. The other tests of a handler — of the form, the account, the
clock, the rate limits — do not depend on the counter: they are questions, with any
answer.

A verification of an authenticator code commits on its own, whatever its outcome
(`app/auth/services.py`), and so does the encryption of a new authenticator secret
(`app/security/crypto.py`). The commit ends the row lock of the handler, if there
was one, and the row is read again, without a lock, when it is next used.
-/

namespace SitBank.Attempts

open SitBank.Interaction

/-! ### Rows and what is written to them -/

inductive Kind
  | resetTransaction
  | topUpRequest
  | staffInvite
  deriving DecidableEq, Repr

/-- The literal in `_record_transaction_failure`. -/
def resetTransactionMaxFailures : ℕ := 5

/-- `_TOPUP_APPROVAL_MAX_FAILURES`. -/
def topupApprovalMaxFailures : ℕ := 5

/-- `STAFF_INVITE_MAX_VERIFY_ATTEMPTS`. -/
def staffInviteMaxVerifyAttempts : ℕ := 5

def Kind.maxFailures : Kind → ℕ
  | .resetTransaction => resetTransactionMaxFailures
  | .topUpRequest => topupApprovalMaxFailures
  | .staffInvite => staffInviteMaxVerifyAttempts

/-- `failures` is `failure_count` or `acceptance_verify_count`. `active` says that
the status is `pending`, or one of `ACTIVE_INVITE_STATUSES`; `locked` that the
row has been locked, or set to `failed` for its failures. Of an invite, `revoked` and
`used` say that `revoked_at` and `used_at` are set, and `setUp` that it has a setup
user who awaits activation. -/
structure Guarded where
  id : ℕ
  failures : ℕ
  active : Bool
  locked : Bool
  revoked : Bool
  used : Bool
  setUp : Bool
  deriving DecidableEq, Repr

/-- Codes are verified against the row. -/
def Guarded.live (r : Guarded) : Bool := r.active && !r.locked

/-- What a handler assigns. `seen` is the copy from which it has taken the
counter. -/
inductive Change
  /-- The counter goes up by one, and the row is locked if that is too many. -/
  | count (seen : Guarded) (tooMany : Bool)
  /-- The counter is written back. -/
  | store (seen : Guarded)
  /-- The status changes to one that is not active. -/
  | close
  /-- The invite is revoked. -/
  | revoke
  /-- `acceptance_locked_at`. -/
  | lock
  /-- The invite is accepted and its acceptance state cleared. -/
  | accept
  /-- The setup user that a start has made. -/
  | setUp
  /-- The status is set to an active one, whatever it has become. -/
  | reopen (statusChanged : Bool)
  /-- `_clear_invite_acceptance_state` by a root admin, who removes the setup user and
  sets the status to `pending`. A reissue removes `revoked_at`. -/
  | clearByRoot (statusChanged reissued : Bool)
  /-- The same after a start that has failed; `found` is the invite as the start has found
  it. The setup user is kept if another one has taken its place. -/
  | clearFailed (found : Guarded) (statusChanged keepsUser : Bool)
  deriving DecidableEq, Repr

/-- The row `r` after an `UPDATE` by a session that has loaded `record`. -/
def Guarded.apply (r record : Guarded) : Change → Guarded
  | .count seen tooMany => { r with
      failures := written record.failures (seen.failures + 1) r.failures
      locked := r.locked || tooMany }
  | .store seen => { r with failures := written record.failures seen.failures r.failures }
  | .close => { r with active := false }
  | .revoke => { r with active := false, revoked := true }
  | .lock => { r with locked := true }
  | .accept => { r with
      failures := written record.failures 0 r.failures
      active := false
      locked := written record.locked false r.locked
      used := true
      setUp := false }
  | .setUp => { r with setUp := true }
  | .reopen statusChanged => { r with active := r.active || statusChanged }
  | .clearByRoot statusChanged reissued => { r with
      failures := written record.failures 0 r.failures
      active := r.active || statusChanged
      locked := written record.locked false r.locked
      revoked := if reissued then written record.revoked false r.revoked else r.revoked
      setUp := written record.setUp false r.setUp }
  | .clearFailed _ statusChanged keepsUser => { r with
      failures := written record.failures 0 r.failures
      active := r.active || statusChanged
      locked := written record.locked false r.locked
      setUp := written record.setUp (record.setUp && keepsUser) r.setUp }

/-- The counter of a row that is inserted. -/
def Change.failures : Change → ℕ
  | .count seen _ => seen.failures + 1
  | .store seen => seen.failures
  | _ => 0

/-! ### The database -/

/-- `wrong`, `pending`, `dead` and `late` are not stored anywhere; they say what
has happened since the row was made, or since a root admin cleared it: how many
wrong codes have been compared, which threads have compared one and not counted
it, whether the row was locked, failed or deleted for too many failures, and how
many codes have been compared after that. -/
structure GuessWorld where
  row : Option Guarded
  holder : Option ℕ
  nextId : ℕ
  wrong : ℕ
  pending : List ℕ
  dead : Bool
  late : ℕ
  deriving DecidableEq, Repr

namespace GuessWorld

/-- The end of a transaction of thread `t`. -/
def release (w : GuessWorld) (t : ℕ) : GuessWorld :=
  { w with holder := released w.holder t }

def record (w : GuessWorld) (t : ℕ) : Change → GuessWorld
  | .count _ tooMany => { w with pending := w.pending.erase t, dead := w.dead || tooMany }
  | .clearByRoot .. => { w with wrong := 0, pending := [], dead := false }
  | _ => w

end GuessWorld

inductive GuessError
  | auth
  | objectDeleted
  | staleData
  | integrity
  | operational
  deriving DecidableEq, Repr

inductive Question
  | expired
  | userBlocked
  | factorSelected
  | factorAvailable
  | alreadyVerified
  | passwordAccepted
  | sixDigits
  | backoff
  | replayed
  | tokenMatches
  | formValid
  | ownerEligible
  | credited
  | creditRefused
  | admitted
  | setupActive
  | workplaceCodeUsable
  | tooManyStarts
  | started
  | statusPending
  | setupUserReplaced
  | stepUpAccepted
  | resettable
  | emailSent
  deriving DecidableEq, Repr

inductive GuessOp
  | ask (q : Question)
  | load (lock : Bool)
  | compare (tested : Guarded)
  | refresh (id : ℕ)
  | update (record : Guarded) (change : Change)
  | insert (change : Change)
  | delete (record : Guarded) (tooMany : Bool)
  | commit
  | rollback

def GuessRes : GuessOp → Type
  | .ask _ => Bool
  | .load _ => Option Guarded
  | .compare _ => Bool
  | .refresh _ => Guarded
  | _ => Unit

abbrev GuessReq (α : Type) := Prog GuessOp GuessRes GuessError α

/-- The answer to a question, and whether a statement fails. -/
structure GuessChoice where
  yes : Bool
  fail : Bool

section Statements

variable (t : ℕ) (c : GuessChoice) (w : GuessWorld)

/-- The code is compared for the row; `c.yes` if it is right. -/
def GuessWorld.compared : GuessWorld :=
  { w with
    wrong := if c.yes then w.wrong else w.wrong + 1
    pending := if c.yes then w.pending else w.pending ++ [t]
    late := if w.dead then w.late + 1 else w.late }

/-- `UPDATE … WHERE id = …` and `COMMIT`. -/
def GuessWorld.updated (record : Guarded) (change : Change) :
    Except GuessError Unit × GuessWorld :=
  match w.row with
  | some r =>
      if r.id = record.id then
        (.ok (), ({ w with row := some (r.apply record change) }.record t change).release t)
      else (.error .staleData, w.release t)
  | none => (.error .staleData, w.release t)

/-- `INSERT` and `COMMIT`; the lookup hash is unique. -/
def GuessWorld.inserted (change : Change) : Except GuessError Unit × GuessWorld :=
  if w.row.isSome then (.error .integrity, w.release t)
  else (.ok (), ({ w with
      row := some ⟨w.nextId, change.failures, true, false, false, false, false⟩
      nextId := w.nextId + 1 }.record t change).release t)

/-- `DELETE … WHERE id = …` and `COMMIT`; it is only a warning when there is no
such row. -/
def GuessWorld.deleted (record : Guarded) (tooMany : Bool) : GuessWorld :=
  match w.row with
  | some r =>
      if r.id = record.id then
        { w with
          row := none
          pending := if tooMany then w.pending.erase t else w.pending
          dead := w.dead || tooMany }.release t
      else w.release t
  | none => w.release t

end Statements

def guessExec : Exec GuessOp GuessRes GuessError GuessWorld GuessChoice := fun t o c w =>
  match o with
  | .ask _ => some (.ok c.yes, w)
  | .load lock =>
      if lock && waits w.holder t then none
      else some (.ok w.row, { w with holder := if lock && w.row.isSome then some t else w.holder })
  | .compare _ => some (.ok c.yes, w.compared t c)
  | .refresh id =>
      match w.row with
      | some r => if r.id = id then some (.ok r, w) else some (.error .objectDeleted, w)
      | none => some (.error .objectDeleted, w)
  | .update record change =>
      if waits w.holder t then none
      else if c.fail then some (.error .operational, w.release t)
      else some (w.updated t record change)
  | .insert change =>
      if c.fail then some (.error .operational, w.release t)
      else some (w.inserted t change)
  | .delete record tooMany =>
      if waits w.holder t then none
      else if c.fail then some (.error .operational, w.release t)
      else some (.ok (), w.deleted t record tooMany)
  | .commit =>
      if c.fail then some (.error .operational, w.release t) else some (.ok (), w.release t)
  | .rollback => some (.ok (), w.release t)

def ask (q : Question) : GuessReq Bool := Prog.perform (GuessOp.ask q)

def select : GuessReq (Option Guarded) := Prog.perform (GuessOp.load false)

/-- `SELECT … FOR UPDATE`. -/
def selectForUpdate : GuessReq (Option Guarded) := Prog.perform (GuessOp.load true)

/-- `tested` is the row as the request has found it when it tested whether codes are
verified; the comparison does not depend on it. -/
def compareCode (tested : Guarded) : GuessReq Bool := Prog.perform (GuessOp.compare tested)

/-- The first use of an instance that a commit has expired. -/
def refresh (r : Guarded) : GuessReq Guarded := Prog.perform (GuessOp.refresh r.id)

def update (record : Guarded) (change : Change) : GuessReq Unit :=
  Prog.perform (GuessOp.update record change)

def insert (change : Change) : GuessReq Unit := Prog.perform (GuessOp.insert change)

def delete (record : Guarded) (tooMany : Bool) : GuessReq Unit :=
  Prog.perform (GuessOp.delete record tooMany)

def commit : GuessReq Unit := Prog.perform GuessOp.commit

def rollback : GuessReq Unit := Prog.perform GuessOp.rollback

def deny {α : Type} : GuessReq α := .raise .auth

/-! ### Authenticator codes -/

inductive Outcome
  | valid
  | invalid
  | replay
  deriving DecidableEq, Repr

/-- `_verify_totp_secret_for_user_outcome`, of which only the comparison and the
commits are left. -/
def verifyTotpOutcome (tested : Guarded) : GuessReq Outcome := do
  if ← ask .sixDigits then
    if ← ask .backoff then
      commit
      deny
    else if ← compareCode tested then
      if ← ask .replayed then
        rollback
        pure .replay
      else
        commit
        pure .valid
    else
      commit
      pure .invalid
  else
    commit
    pure .invalid

/-! ### Reset transactions -/

/-- `_delete_transaction_id`. -/
def deleteTransaction (tooMany : Bool) : GuessReq Unit := do
  match ← select with
  | none => pure ()
  | some record => delete record tooMany

/-- `_load_transaction`: the transaction is a copy of the row. -/
def loadTransaction : GuessReq Guarded := do
  match ← select with
  | none =>
      deleteTransaction false
      deny
  | some record =>
      if ← ask .expired then
        deleteTransaction false
        deny
      else pure record

/-- `_transaction_user`. -/
def transactionUser : GuessReq Unit := do
  if ← ask .userBlocked then
    deleteTransaction false
    deny
  else pure ()

/-- `_store_transaction`: the row is looked up again, and made again when it is
gone. -/
def storeTransaction (change : Change) : GuessReq Unit := do
  match ← select with
  | none => insert change
  | some record => update record change

/-- `_record_transaction_failure`. -/
def recordTransactionFailure (transaction : Guarded) : GuessReq Unit :=
  if resetTransactionMaxFailures ≤ transaction.failures + 1 then do
    deleteTransaction true
    deny
  else storeTransaction (.count transaction false)

/-- `_require_selected_reset_mfa_method`. -/
def requireSelectedResetMfaMethod (transaction : Guarded) : GuessReq Unit := do
  if ← ask .factorSelected then pure ()
  else
    storeTransaction (.store transaction)
    deny

inductive ResetMethod
  | totp
  | recoveryCode
  deriving DecidableEq, Repr

def failedResetCode (transaction : Guarded) : GuessReq Unit := do
  recordTransactionFailure transaction
  deny

def verifiedResetCode (transaction : Guarded) : GuessReq Unit := do
  commit
  storeTransaction (.store transaction)

/-- `consume_recovery_code` looks for the code among those of the user. -/
def checkResetCode (transaction : Guarded) : ResetMethod → GuessReq Unit
  | .totp => do
      if ← ask .sixDigits then
        match ← verifyTotpOutcome transaction with
        | .replay => deny
        | .invalid => failedResetCode transaction
        | .valid => verifiedResetCode transaction
      else failedResetCode transaction
  | .recoveryCode => do
      if ← ask .backoff then deny
      else if ← compareCode transaction then verifiedResetCode transaction
      else
        commit
        failedResetCode transaction

def verifyResetAuthenticationCode (method : ResetMethod) : GuessReq Unit := do
  let transaction ← loadTransaction
  transactionUser
  requireSelectedResetMfaMethod transaction
  checkResetCode transaction method

def selectResetMfaMethod : GuessReq Unit := do
  let transaction ← loadTransaction
  transactionUser
  if ← ask .factorAvailable then
    if ← ask .alreadyVerified then deny
    else storeTransaction (.store transaction)
  else
    storeTransaction (.store transaction)
    deny

def completePasswordReset : GuessReq Unit := do
  let _ ← loadTransaction
  transactionUser
  if ← ask .passwordAccepted then
    commit
    deleteTransaction false
  else deny

/-! ### Top-up requests -/

/-- `_lazily_expire`. -/
def lazilyExpire (request : Guarded) : GuessReq (Option Guarded) := do
  if request.live then
    if ← ask .expired then
      update request .close
      pure none
    else pure (some request)
  else pure none

/-- `copy` is the instance that the session has of the request: the locked row is not
read into it again. -/
def loadTopupRequestForApproval (copy : Option Guarded) : GuessReq (Option Guarded) := do
  match ← selectForUpdate with
  | none => pure none
  | some request =>
      if ← ask .tokenMatches then lazilyExpire (copy.getD request) else pure none

/-- The owner is read again after the commit, and the request with it. The row is locked
again, and closed: completed, or failed if the account cannot be credited. -/
def completeTopUp (request : Guarded) : GuessReq Unit := do
  let copy ← refresh request
  match ← loadTopupRequestForApproval (some copy) with
  | none => pure ()
  | some request =>
      if ← ask .credited then update request .close
      else
        rollback
        if ← ask .creditRefused then update request .close else pure ()

def countWrongTopUpCode (request : Guarded) : GuessReq Unit := do
  let request ← refresh request
  update request (.count request (topupApprovalMaxFailures ≤ request.failures + 1))

def approvePendingTopUp (request : Guarded) : GuessReq Unit := do
  if ← ask .formValid then
    if ← ask .ownerEligible then
      match ← verifyTotpOutcome request with
      | .valid => completeTopUp request
      | _ => countWrongTopUpCode request
    else update request .close
  else pure ()

def topupApproveSubmit : GuessReq Unit := do
  match ← loadTopupRequestForApproval none with
  | none => pure ()
  | some request => approvePendingTopUp request

/-- The poll of the device that made the request. -/
def topupStatus : GuessReq Unit := do
  match ← select with
  | none => pure ()
  | some request =>
      let _ ← lazilyExpire request
      pure ()

/-! ### Staff invites -/

/-- `_active_invite_by_token`, and the lock check of its callers. -/
def activeInviteByToken : GuessReq Guarded := do
  if ← ask .tokenMatches then
    match ← selectForUpdate with
    | none => deny
    | some invite =>
        if ← ask .expired then
          update invite .close
          deny
        else if invite.revoked || invite.used then deny
        else if invite.live then pure invite
        else deny
  else deny

/-- `_record_invite_acceptance_verify_failure`. -/
def recordInviteAcceptanceVerifyFailure (invite : Guarded) : GuessReq Unit := do
  update invite (.count invite (staffInviteMaxVerifyAttempts ≤ invite.failures + 1))
  deny

/-- `_verify_workplace_code`, after the commit of the authenticator check: the invite is
read again, and not tested again. -/
def checkWorkplaceCode (tested : Guarded) : GuessReq Unit := do
  let invite ← refresh tested
  if ← ask .workplaceCodeUsable then
    if ← compareCode tested then update invite .accept
    else recordInviteAcceptanceVerifyFailure invite
  else recordInviteAcceptanceVerifyFailure invite

def checkInviteCodes (invite : Guarded) : GuessReq Unit := do
  if ← ask .sixDigits then
    match ← verifyTotpOutcome invite with
    | .replay => deny
    | .invalid => do
        let invite ← refresh invite
        recordInviteAcceptanceVerifyFailure invite
    | .valid => checkWorkplaceCode invite
  else recordInviteAcceptanceVerifyFailure invite

def verifyInviteAcceptance : GuessReq Unit := do
  let invite ← activeInviteByToken
  if ← ask .admitted then
    if invite.setUp then
      if ← ask .setupActive then checkInviteCodes invite
      else
        let statusPending ← ask .statusPending
        update invite (.reopen !statusPending)
        deny
    else
      commit
      deny
  else deny

/-- `_clear_failed_invite_acceptance_start`, after a rollback. -/
def clearFailedInviteAcceptanceStart (found : Guarded) : GuessReq Unit :=
  if found.setUp then pure ()
  else do
    match ← select with
    | none => pure ()
    | some invite =>
        let statusPending ← ask .statusPending
        let keepsUser ← ask .setupUserReplaced
        update invite (.clearFailed found (!statusPending) keepsUser)

/-- `encrypt_mfa_secret`: its audit event commits the setup user, if a new one was made,
and ends the lock. Without the event everything is rolled back, and the start goes on. -/
def encryptMfaSecret (invite : Guarded) : GuessReq Unit :=
  (if invite.setUp then commit else update invite .setUp).tryCatch fun _ => rollback

/-- The status and the rest of the start, with the e-mail and the required audit events. -/
def finishStart (invite : Guarded) : GuessReq Unit := do
  if ← ask .started then
    let statusPending ← ask .statusPending
    update invite (.reopen statusPending)
  else deny

def startInviteAcceptance : GuessReq Unit := do
  let found ← activeInviteByToken
  if ← ask .tooManyStarts then
    update found .lock
    deny
  else if ← ask .admitted then
    encryptMfaSecret found
    let invite ← refresh found
    (finishStart invite).tryCatch fun _ => do
      rollback
      clearFailedInviteAcceptanceStart found
      deny
  else deny

/-- The check of `revoke_staff_invite` and its siblings, without a lock. -/
def activeInviteById : GuessReq Guarded := do
  if ← ask .stepUpAccepted then
    match ← select with
    | none => deny
    | some invite => if invite.active then pure invite else deny
  else deny

def revokeStaffInvite : GuessReq Unit := do
  let invite ← activeInviteById
  update invite .revoke

/-- `_reset_active_invite_acceptance_for_root_action` and the commit; for a reissue
`emailSent` is asked before. -/
def resetActiveInviteAcceptance (invite : Guarded) (reissued : Bool) : GuessReq Unit := do
  if ← ask .resettable then
    let statusPending ← ask .statusPending
    update invite (.clearByRoot (!statusPending) reissued)
  else deny

def resetStaffInviteAcceptance : GuessReq Unit := do
  let invite ← activeInviteById
  resetActiveInviteAcceptance invite false

def reissueStaffInvite : GuessReq Unit := do
  let invite ← activeInviteById
  if ← ask .emailSent then resetActiveInviteAcceptance invite true
  else
    rollback
    deny

/-! ### Requests -/

inductive GuessRequest : Kind → Type
  | verifyReset (method : ResetMethod) : GuessRequest .resetTransaction
  | selectResetMethod : GuessRequest .resetTransaction
  | completeReset : GuessRequest .resetTransaction
  | approveTopUp : GuessRequest .topUpRequest
  | pollTopUp : GuessRequest .topUpRequest
  | verifyInvite : GuessRequest .staffInvite
  | startInvite : GuessRequest .staffInvite
  | revokeInvite : GuessRequest .staffInvite
  | resetInvite : GuessRequest .staffInvite
  | reissueInvite : GuessRequest .staffInvite

def GuessRequest.handler {kind : Kind} : GuessRequest kind → GuessReq Unit
  | .verifyReset method => verifyResetAuthenticationCode method
  | .selectResetMethod => selectResetMfaMethod
  | .completeReset => completePasswordReset
  | .approveTopUp => topupApproveSubmit
  | .pollTopUp => topupStatus
  | .verifyInvite => verifyInviteAcceptance
  | .startInvite => startInviteAcceptance
  | .revokeInvite => revokeStaffInvite
  | .resetInvite => resetStaffInviteAcceptance
  | .reissueInvite => reissueStaffInvite

/-- The session is closed at the end of the request, also after an exception. -/
def GuessRequest.serve {kind : Kind} (request : GuessRequest kind) : GuessReq Unit := do
  request.handler.tryCatch fun e => do
    rollback
    .raise e
  rollback

abbrev GuessConf := Conf GuessOp GuessRes GuessError Unit GuessWorld

/-- A new row, and any number of requests for it, none of which has started. An invite
that is sent again to a setup user has that one from the beginning. -/
def guessStart {kind : Kind} (setUp : Bool) (requests : ℕ → GuessRequest kind) : GuessConf where
  world := ⟨some ⟨0, 0, true, false, false, false, setUp⟩, none, 1, 0, [], false, 0⟩
  prog t := (requests t).serve

end SitBank.Attempts
