import SitBank.Interaction.Machine
import SitBank.Interaction.RowLock

/-!
Acceptance of one staff invite, with other sessions in between
(`app/admin/services.py`).

The model has the row of the invite with its lock, the accounts made for it, and
every request that writes the row. Tokens are numbered; so are accounts. A start
and a verification lock the row when they look the token up. Both commit before
they are done, a start with the audit event of the encryption, a verification with
its check of the authenticator code; that ends the lock, and the row is read again
without one. The actions of a root admin take no lock.

The counters of the acceptance and the tests that do not read the modelled
columns are questions with any answer.
-/

namespace SitBank.Admin.Acceptance

open SitBank.Interaction

/-! ### The row -/

/-- `active` says that the status is one of `ACTIVE_INVITE_STATUSES`, `revoked` and
`used` that the time is set. `workplaceCode` is the token that the stored
workplace code is bound to. -/
structure Invite where
  token : ℕ
  active : Bool
  revoked : Bool
  used : Bool
  setupUser : Option ℕ
  workplaceCode : Option ℕ
  deriving DecidableEq, Repr

inductive Change
  /-- Only columns that are not modelled. -/
  | other
  | expire
  /-- The account of a start, with the event of its encryption. -/
  | link (user : ℕ) (created : Bool)
  | start (user : ℕ) (statusChanged : Bool)
  /-- `_clear_failed_invite_acceptance_start`. -/
  | clear (statusChanged unlinked deleted : Bool)
  | revoke
  | reset (statusChanged : Bool)
  | reissue (statusChanged : Bool)
  /-- `token` is the one that was submitted. -/
  | activate (token user : ℕ)
  deriving DecidableEq, Repr

/-- An account has been activated; `inForce` says that its token was that of the
invite and the invite not revoked. -/
structure Activation where
  user : ℕ
  token : ℕ
  inForce : Bool
  deriving DecidableEq, Repr

/-- `verifying` lists the verifications that have looked the invite up and are not
finished, with the row as they have found it. -/
structure AcceptanceWorld where
  row : Invite
  holder : Option ℕ
  nextToken : ℕ
  users : List ℕ
  nextUser : ℕ
  verifying : List (ℕ × Invite)
  activations : List Activation
  deriving DecidableEq, Repr

/-- The row `r` after an `UPDATE` by a session that has loaded `record`. -/
def Invite.apply (r record : Invite) (nextToken : ℕ) : Change → Invite
  | .other => r
  | .expire => { r with active := false }
  | .link user _ => { r with setupUser := written record.setupUser (some user) r.setupUser }
  | .start _ statusChanged => { r with
      active := r.active || statusChanged
      workplaceCode := some record.token }
  | .clear statusChanged unlinked _ => { r with
      active := r.active || statusChanged
      setupUser := if unlinked then written record.setupUser none r.setupUser else r.setupUser
      workplaceCode := written record.workplaceCode none r.workplaceCode }
  | .revoke => { r with active := false, revoked := true }
  | .reset statusChanged => { r with
      active := r.active || statusChanged
      setupUser := written record.setupUser none r.setupUser
      workplaceCode := written record.workplaceCode none r.workplaceCode }
  | .reissue statusChanged => { r with
      token := nextToken
      active := r.active || statusChanged
      revoked := written record.revoked false r.revoked
      setupUser := written record.setupUser none r.setupUser
      workplaceCode := written record.workplaceCode none r.workplaceCode }
  | .activate _ _ => { r with
      active := false
      used := true
      workplaceCode := written record.workplaceCode none r.workplaceCode }

/-! ### Statements -/

inductive AcceptanceError
  | auth
  | staleData
  | operational
  deriving DecidableEq, Repr

inductive Question
  | refused
  | expired
  | admitted
  | userReady
  | setupActive
  | sixDigits
  | backoff
  | totpRight
  | replayed
  | workplaceCodeRight
  | duplicateIdentity
  | workplaceCodeSent
  | statusStarted
  | statusPending
  | stepUpAccepted
  | emailSent
  deriving DecidableEq, Repr

inductive AcceptanceOp
  | ask (q : Question)
  | load (token : ℕ) (lock verification : Bool)
  | get
  | insertUser
  | update (record : Invite) (change : Change)
  | commit
  | rollback
  | close

def AcceptanceRes : AcceptanceOp → Type
  | .ask _ => Bool
  | .load _ _ _ => Option Invite
  | .get => Invite
  | .insertUser => ℕ
  | _ => Unit

abbrev AcceptanceReq (α : Type) := Prog AcceptanceOp AcceptanceRes AcceptanceError α

structure AcceptanceChoice where
  yes : Bool
  fail : Bool

namespace AcceptanceWorld

variable (w : AcceptanceWorld) (t : ℕ)

def release : AcceptanceWorld := { w with holder := released w.holder t }

/-- The row is found by its token. -/
def load (token : ℕ) (lock verification : Bool) : Option Invite × AcceptanceWorld :=
  if w.row.token = token then
    (some w.row, { w with
      holder := if lock then some t else w.holder
      verifying := if verification then w.verifying ++ [(t, w.row)] else w.verifying })
  else (none, w)

/-- What an `UPDATE` of the invite takes along. -/
def record (record : Invite) : Change → AcceptanceWorld
  | .link user true => { w with users := w.users ++ [user] }
  | .clear _ _ true => { w with users := w.users.filter fun u => some u ≠ record.setupUser }
  | .reset _ => { w with users := w.users.filter fun u => some u ≠ record.setupUser }
  | .reissue _ => { w with
      nextToken := w.nextToken + 1
      users := w.users.filter fun u => some u ≠ record.setupUser }
  | .activate token user => { w with
      verifying := w.verifying.filter fun p => p.1 ≠ t
      activations := w.activations ++
        [⟨user, token, w.row.token = token && !w.row.revoked⟩] }
  | _ => w

/-- An account that is written has to be there. -/
def accountThere : Change → Bool
  | .link user created => created || user ∈ w.users
  | .start user _ => user ∈ w.users
  | .activate _ user => user ∈ w.users
  | _ => true

/-- `UPDATE` and `COMMIT`. -/
def update (loaded : Invite) (change : Change) : Except AcceptanceError Unit × AcceptanceWorld :=
  if w.accountThere change then
    (.ok (), { w.record t loaded change with
      row := w.row.apply loaded w.nextToken change }.release t)
  else (.error .staleData, w.release t)

end AcceptanceWorld

def acceptanceExec :
    Exec AcceptanceOp AcceptanceRes AcceptanceError AcceptanceWorld AcceptanceChoice :=
      fun t o c w =>
  match o with
  | .ask _ => some (.ok c.yes, w)
  | .load token lock verification =>
      if lock && waits w.holder t then none
      else some (.ok (w.load t token lock verification).1, (w.load t token lock verification).2)
  | .get => some (.ok w.row, w)
  | .insertUser => some (.ok w.nextUser, { w with nextUser := w.nextUser + 1 })
  | .update record change =>
      if waits w.holder t then none
      else if c.fail then some (.error .operational, w.release t)
      else some (w.update t record change)
  | .commit =>
      if c.fail then some (.error .operational, w.release t) else some (.ok (), w.release t)
  | .rollback => some (.ok (), w.release t)
  | .close => some (.ok (), { w.release t with
      verifying := w.verifying.filter fun p => p.1 ≠ t })

def ask (q : Question) : AcceptanceReq Bool := Prog.perform (AcceptanceOp.ask q)

def select (token : ℕ) (lock verification : Bool) : AcceptanceReq (Option Invite) :=
  Prog.perform (AcceptanceOp.load token lock verification)

/-- `db.session.get`, and the first use of the row after a commit. -/
def get : AcceptanceReq Invite := Prog.perform AcceptanceOp.get

/-- A new account, not committed; its number is not used again. -/
def insertUser : AcceptanceReq ℕ := Prog.perform AcceptanceOp.insertUser

def update (record : Invite) (change : Change) : AcceptanceReq Unit :=
  Prog.perform (AcceptanceOp.update record change)

def commit : AcceptanceReq Unit := Prog.perform AcceptanceOp.commit

def rollback : AcceptanceReq Unit := Prog.perform AcceptanceOp.rollback

/-- The end of the request. -/
def close : AcceptanceReq Unit := Prog.perform AcceptanceOp.close

def deny {α : Type} : AcceptanceReq α := .raise .auth

/-! ### The requests of the invited -/

/-- `_active_invite_by_token`. -/
def activeInviteByToken (token : ℕ) (lock verification : Bool) : AcceptanceReq Invite := do
  match ← select token lock verification with
  | none => deny
  | some invite =>
      if ← ask .expired then
        update invite .expire
        deny
      else if invite.revoked || invite.used || !invite.active then deny
      else pure invite

def inviteAcceptInfo (token : ℕ) : AcceptanceReq Unit := do
  let _ ← activeInviteByToken token false false
  pure ()

/-- The account and the invite that refers to it are committed with the audit event,
or rolled back. -/
def encryptMfaSecret (invite : Invite) (user : ℕ) (created : Bool) : AcceptanceReq Unit :=
  (update invite (.link user created)).tryCatch fun _ => pure ()

/-- `_clear_failed_invite_acceptance_start`; the row is read again. -/
def clearFailedStart (user : ℕ) : AcceptanceReq Unit := do
  let invite ← get
  let statusPending ← ask .statusPending
  if invite.setupUser = some user then
    let userReady ← ask .userReady
    update invite (.clear (!statusPending) true userReady)
  else update invite (.clear (!statusPending) false false)

def failedStart (user : ℕ) (created : Bool) : AcceptanceReq Unit := do
  rollback
  if created then clearFailedStart user
  deny

/-- The row is read again without its lock, and the invite is not tested again. -/
def finishStart (invite : Invite) (user : ℕ) (created : Bool) : AcceptanceReq Unit := do
  encryptMfaSecret invite user created
  let invite ← get
  let statusStarted ← ask .statusStarted
  Prog.tryCatch (do
    if ← ask .workplaceCodeSent then update invite (.start user !statusStarted) else deny)
    fun _ => failedStart user created

def startInviteAcceptance (token : ℕ) : AcceptanceReq Unit := do
  if ← ask .refused then deny
  else
    let invite ← activeInviteByToken token true false
    if ← ask .admitted then
      match invite.setupUser with
      | some user => do
          if ← ask .userReady then finishStart invite user false else deny
      | none => do
          if ← ask .duplicateIdentity then deny
          else
            let user ← insertUser
            finishStart invite user true
    else
      update invite .other
      deny

inductive Outcome
  | valid
  | invalid
  | replay
  deriving DecidableEq, Repr

/-- `_verify_totp_secret_for_user_outcome`, for the account of the invite. -/
def verifyTotpOutcome : AcceptanceReq Outcome := do
  if ← ask .sixDigits then
    if ← ask .backoff then
      commit
      deny
    else if ← ask .totpRight then
      if ← ask .replayed then
        rollback
        pure .replay
      else
        commit
        pure .valid
    else
      commit
      pure .invalid
  else
    commit
    pure .invalid

/-- `_record_invite_acceptance_verify_failure`. -/
def recordVerifyFailure (invite : Invite) : AcceptanceReq Unit := do
  update invite .other
  deny

/-- The workplace code and the activation; the invite is not tested again. -/
def activateStaff (token user : ℕ) : AcceptanceReq Unit := do
  let invite ← get
  if ← ask .workplaceCodeRight then
    if invite.workplaceCode = some invite.token then update invite (.activate token user)
    else recordVerifyFailure invite
  else recordVerifyFailure invite

def checkCodes (token user : ℕ) (invite : Invite) : AcceptanceReq Unit := do
  if ← ask .sixDigits then
    match ← verifyTotpOutcome with
    | .replay => deny
    | .invalid => do
        let invite ← get
        recordVerifyFailure invite
    | .valid => activateStaff token user
  else recordVerifyFailure invite

def verifyPendingSetup (token : ℕ) (invite : Invite) : AcceptanceReq Unit :=
  match invite.setupUser with
  | none => deny
  | some user => do
      if ← ask .userReady then
        if ← ask .setupActive then checkCodes token user invite
        else
          update invite .other
          deny
      else deny

def verifyInviteAcceptance (token : ℕ) : AcceptanceReq Unit := do
  if ← ask .refused then deny
  else
    let invite ← activeInviteByToken token true true
    if ← ask .admitted then verifyPendingSetup token invite else deny

/-! ### The requests of a root admin -/

def activeInviteById : AcceptanceReq Invite := do
  if ← ask .stepUpAccepted then
    let invite ← get
    if invite.active then pure invite else deny
  else deny

def revokeStaffInvite : AcceptanceReq Unit := do
  let invite ← activeInviteById
  update invite .revoke

/-- `_deliver_fresh_invite_email`, when the e-mail cannot be sent. -/
def undeliveredInvite : AcceptanceReq Unit := do
  let invite ← get
  update invite .revoke
  deny

/-- `_reset_active_invite_acceptance_for_root_action`: whether the account can be
deleted. -/
def resettable (invite : Invite) : AcceptanceReq Unit :=
  match invite.setupUser with
  | none => pure ()
  | some _ => do
      if ← ask .userReady then pure () else deny

def resetStaffInviteAcceptance : AcceptanceReq Unit := do
  let invite ← activeInviteById
  resettable invite
  let statusPending ← ask .statusPending
  update invite (.reset !statusPending)

def reissueStaffInvite : AcceptanceReq Unit := do
  let invite ← activeInviteById
  resettable invite
  let statusPending ← ask .statusPending
  if ← ask .emailSent then update invite (.reissue !statusPending)
  else
    rollback
    deny

/-! ### Requests -/

inductive AcceptanceRequest
  | info (token : ℕ)
  | start (token : ℕ)
  | verify (token : ℕ)
  | revoke
  | undelivered
  | reset
  | reissue
  deriving DecidableEq, Repr

def AcceptanceRequest.handler : AcceptanceRequest → AcceptanceReq Unit
  | .info token => inviteAcceptInfo token
  | .start token => startInviteAcceptance token
  | .verify token => verifyInviteAcceptance token
  | .revoke => revokeStaffInvite
  | .undelivered => undeliveredInvite
  | .reset => resetStaffInviteAcceptance
  | .reissue => reissueStaffInvite

def AcceptanceRequest.serve (request : AcceptanceRequest) : AcceptanceReq Unit := do
  request.handler.tryCatch fun e => do
    close
    .raise e
  close

abbrev AcceptanceConf := Conf AcceptanceOp AcceptanceRes AcceptanceError Unit AcceptanceWorld

/-- A new invite, for a new account or (`resend_staff_setup_invite`) for one that
has not finished its setup, and any number of requests that have not started. -/
def acceptanceStart (resent : Bool) (requests : ℕ → AcceptanceRequest) : AcceptanceConf where
  world :=
    { row := ⟨0, true, false, false, if resent then some 0 else none, none⟩
      holder := none
      nextToken := 1
      users := if resent then [0] else []
      nextUser := 1
      verifying := []
      activations := [] }
  prog t := (requests t).serve

end SitBank.Admin.Acceptance
