import SitBank.Audit.Writer
import SitBank.Interaction.Call

/-!
Staff invites (`app/admin/services.py`) and what they do to users and to the audit
log.

Requests run one at a time. A request works on uncommitted rows; where it rolls
back, or fails and is not committed, the rows it started from come back
(`committed`). Checks that read nothing of the model (rate limits, the security
challenge, the form, the step-up code) are flags of `InviteInputs`, as are the
failures of e-mails and of audit writes.

Deleting a user clears every plain reference to it: SQLAlchemy sets the foreign
key of the children to `NULL`, also in `security_audit_events`.
-/

namespace SitBank.Admin

open SitBank.Interaction SitBank.Audit SitBank.Python

/-! ### Rows -/

inductive StaffRole
  | customer
  | staff
  | admin
  | rootAdmin
  deriving DecidableEq, Repr

inductive StaffStatus
  | active
  | setupPending
  | revoked
  | locked
  deriving DecidableEq, Repr

/-- The columns of `users` that invites read and write. -/
structure StaffUser where
  id : ℤ
  email : String
  accountType : StaffRole
  accountStatus : StaffStatus
  mfaEnabled : Bool
  deriving DecidableEq, Repr

inductive InviteStatus
  | pending
  | totpPending
  | accepted
  | revoked
  | expired
  deriving DecidableEq, Repr

inductive DeliveryStatus
  | unconfirmed
  | queued
  | failed
  deriving DecidableEq, Repr

structure StaffInvite where
  id : ℕ
  tokenHash : String
  workplaceEmailNormalized : String
  role : StaffRole
  status : InviteStatus
  deliveryStatus : DeliveryStatus
  setupUserId : Option ℤ
  usedByUserId : Option ℤ
  expiresAt : ℕ
  usedAt : Option ℕ
  revokedAt : Option ℕ
  acceptanceSessionHash : Option String
  acceptanceStartCount : ℕ
  acceptanceLockedAt : Option ℕ
  acceptanceVerifyCount : ℕ
  acceptanceVerifyLockedAt : Option ℕ
  deriving DecidableEq, Repr

structure InviteWorld where
  clock : ℕ
  users : List StaffUser
  nextUserId : ℤ
  invites : List StaffInvite
  nextInviteId : ℕ
  log : AuditLog

structure InviteConfig extends AuditConfig where
  staffInviteTtlSeconds : ℕ
  casefold : String → String

/-- What reaches one request from outside. -/
structure InviteInputs where
  ipAddress : String
  userAgent : String
  correlationId : String
  sessionRef : Option String
  createdAt : ℤ
  /-- The sanitised metadata of an event. -/
  metadata : String → Json
  isRootAdmin : Bool
  stepUpAccepted : Bool
  /-- The e-mail policy, the role and the allow-list. -/
  policyAccepts : Bool
  probeLimited : Bool
  forgedFields : Bool
  turnstileFails : Bool
  /-- The hash of a fresh token. -/
  freshTokenHash : String
  /-- `_invite_acceptance_session_hash`. -/
  sessionHash : String
  detailsValid : Bool
  phoneTaken : Bool
  emailFails : Bool
  mfaSetupActive : Bool
  totpValid : Bool
  totpReplayed : Bool
  workplaceCodeValid : Bool
  /-- No key encrypts the MFA secret of a start. -/
  mfaKeyMissing : Bool
  /-- The rows cannot be read again after the secret is encrypted. -/
  refreshFails : Bool
  /-- The event of this type and outcome cannot be written. -/
  auditFails : String → String → Bool
  /-- What the request left unfinished is committed with its browser session. -/
  leftoversCommitted : Bool

inductive InviteError
  | auth (message : String) (status : ℕ)
  | auditWrite
  | delivery
  | mfaKey
  | database
  deriving DecidableEq, Repr

abbrev InviteCall (α : Type) := Call InviteWorld InviteError α

def forbidden : InviteError := .auth "Forbidden" 403

def genericInviteError (status : ℕ) : InviteError :=
  .auth "Invite link is invalid or expired" status

def inviteAcceptanceError (status : ℕ) : InviteError := .auth "Invite acceptance failed" status

def inviteCreateError : InviteError := .auth "Invite could not be created" 400

def staffInviteNotFoundError : InviteError := .auth "Invite not found" 404

/-! ### Audit events and users -/

def InviteInputs.draft (inputs : InviteInputs) (eventType outcome : String) (userId : Option ℤ) :
    AuditDraft :=
  ⟨eventType, outcome, userId, inputs.ipAddress, inputs.userAgent, inputs.correlationId,
    inputs.sessionRef, inputs.metadata eventType, inputs.createdAt⟩

def InviteInputs.unwritable (inputs : InviteInputs) (cfg : InviteConfig)
    (eventType outcome : String) : Bool :=
  inputs.auditFails eventType outcome || !cfg.keyUsable

/-- A failing write rolls the session back. -/
def auditEvent (cfg : InviteConfig) (inputs : InviteInputs) (committed : InviteWorld)
    (eventType outcome : String) (userId : Option ℤ) : InviteCall Unit :=
  if inputs.unwritable cfg eventType outcome then set committed
  else modify fun w =>
    { w with log := w.log.write cfg.toAuditConfig (inputs.draft eventType outcome userId) }

/-- A failing write raises. -/
def auditEventRequired (cfg : InviteConfig) (inputs : InviteInputs) (committed : InviteWorld)
    (eventType outcome : String) (userId : Option ℤ) : InviteCall Unit :=
  if inputs.unwritable cfg eventType outcome then do
    if inputs.leftoversCommitted then pure () else set committed
    throw .auditWrite
  else modify fun w =>
    { w with log := w.log.write cfg.toAuditConfig (inputs.draft eventType outcome userId) }

/-- Record an event and stop, when the check fails. -/
def refuseUnless (cfg : InviteConfig) (inputs : InviteInputs) (ok : Bool)
    (eventType outcome : String) (userId : Option ℤ) (error : InviteError) : InviteCall Unit := do
  let w ← get
  if ok then pure ()
  else
    auditEvent cfg inputs w eventType outcome userId
    throw error

def userById (id : ℤ) (w : InviteWorld) : Option StaffUser := w.users.find? fun u => u.id = id

def setupUser (invite : StaffInvite) (w : InviteWorld) : Option StaffUser :=
  invite.setupUserId.bind fun id => userById id w

def setUser (user : StaffUser) : InviteCall Unit :=
  modify fun w => { w with users := w.users.map fun u => if u.id = user.id then user else u }

def setInvite (invite : StaffInvite) : InviteCall Unit :=
  modify fun w =>
    { w with invites := w.invites.map fun i => if i.id = invite.id then invite else i }

/-- The row is read again, and written column by column. -/
def changeInvite (inviteId : ℕ) (f : StaffInvite → StaffInvite) : InviteCall Unit :=
  modify fun w => { w with invites := w.invites.map fun i => if i.id = inviteId then f i else i }

/-- The rows after their user was deleted. -/
def unlinkUser (userId : ℤ) (e : SecurityAuditEvent) : SecurityAuditEvent :=
  if e.userId = some userId then { e with userId := none } else e

theorem unlinkUser_id (userId : ℤ) (e : SecurityAuditEvent) : (unlinkUser userId e).id = e.id := by
  unfold unlinkUser
  split <;> rfl

def unlinkLog (userId : ℤ) (log : AuditLog) : AuditLog where
  rows := log.rows.map (unlinkUser userId)
  sorted := by
    refine List.pairwise_map.mpr (log.sorted.imp fun {e e'} h => ?_)
    rwa [unlinkUser_id, unlinkUser_id]
  nextId := log.nextId
  lt_nextId e he := by
    obtain ⟨e₀, he₀, rfl⟩ := List.mem_map.mp he
    rw [unlinkUser_id]
    exact log.lt_nextId e₀ he₀

/-- `db.session.delete(user)`. -/
def deleteUser (userId : ℤ) (w : InviteWorld) : InviteWorld :=
  { w with
    users := w.users.filter fun u => u.id ≠ userId
    invites := w.invites.map fun i =>
      if i.setupUserId = some userId then { i with setupUserId := none } else i
    log := unlinkLog userId w.log }

/-! ### Invites -/

def StaffInvite.active (invite : StaffInvite) : Bool :=
  invite.status = .pending || invite.status = .totpPending

/-- Status pending or totp_pending, not revoked, not used, not past its expiry. -/
def StaffInvite.live (clock : ℕ) (invite : StaffInvite) : Bool :=
  invite.active && invite.revokedAt.isNone && invite.usedAt.isNone && clock < invite.expiresAt

def StaffInvite.cleared (invite : StaffInvite) : StaffInvite :=
  { invite with
    acceptanceSessionHash := none
    acceptanceStartCount := 0
    acceptanceLockedAt := none
    acceptanceVerifyCount := 0
    acceptanceVerifyLockedAt := none }

def StaffInvite.acceptanceIsLocked (invite : StaffInvite) : Bool :=
  invite.acceptanceLockedAt.isSome || invite.acceptanceVerifyLockedAt.isSome

/-- `_require_staff_invite_step_up`, after the check for a root administrator. -/
def requireRootStepUp (cfg : InviteConfig) (inputs : InviteInputs) (actor : ℤ)
    (eventType : String) : InviteCall Unit := do
  raiseIf (!inputs.isRootAdmin) forbidden
  refuseUnless cfg inputs inputs.stepUpAccepted eventType "failure" (some actor)
    (.auth ("Fresh MFA verification is required. Wait for a new authenticator code " ++
      "before retrying this invite action.") 403)

/-- `_reject_existing_staff_identity`. -/
def staffIdentityExists (cfg : InviteConfig) (email : String) (w : InviteWorld) : Bool :=
  w.users.any fun u => cfg.casefold u.email = cfg.casefold email && u.accountType ≠ .customer

/-- `_reject_active_invite`. -/
def activeInviteExists (cfg : InviteConfig) (email : String) (w : InviteWorld) : Bool :=
  w.invites.any fun i => i.active && i.revokedAt.isNone && i.usedAt.isNone &&
    w.clock < i.expiresAt && cfg.casefold i.workplaceEmailNormalized = cfg.casefold email

def insertInvite (cfg : InviteConfig) (inputs : InviteInputs) (email : String) (role : StaffRole)
    (setupUserId : Option ℤ) (w : InviteWorld) : StaffInvite where
  id := w.nextInviteId
  tokenHash := inputs.freshTokenHash
  workplaceEmailNormalized := email
  role := role
  status := .pending
  deliveryStatus := .unconfirmed
  setupUserId := setupUserId
  usedByUserId := none
  expiresAt := w.clock + cfg.staffInviteTtlSeconds
  usedAt := none
  revokedAt := none
  acceptanceSessionHash := none
  acceptanceStartCount := 0
  acceptanceLockedAt := none
  acceptanceVerifyCount := 0
  acceptanceVerifyLockedAt := none

def deliverFreshInviteEmail (cfg : InviteConfig) (inputs : InviteInputs) (actor : ℤ)
    (invite : StaffInvite) : InviteCall Unit := do
  let committed ← get
  if inputs.emailFails then
    setInvite { invite with
      status := .revoked, deliveryStatus := .failed, revokedAt := some committed.clock }
    auditEvent cfg inputs committed "staff_invite_email" "failure" (some actor)
    throw (.auth "Invite could not be sent" 503)
  else
    setInvite { invite with deliveryStatus := .queued }
    auditEvent cfg inputs committed "staff_invite_email" "queued" (some actor)

/-- The new row of `create_staff_invite` and `resend_staff_setup_invite`, and its
e-mail. -/
def mintInvite (cfg : InviteConfig) (inputs : InviteInputs) (actor : ℤ) (email : String)
    (role : StaffRole) (setupUserId : Option ℤ) (eventType : String) : InviteCall Unit := do
  let committed ← get
  let invite := insertInvite cfg inputs email role setupUserId committed
  modify fun w => { w with
    invites := w.invites ++ [invite], nextInviteId := w.nextInviteId + 1 }
  auditEventRequired cfg inputs committed eventType "success" (some actor)
  deliverFreshInviteEmail cfg inputs actor invite

def createStaffInvite (cfg : InviteConfig) (inputs : InviteInputs) (actor : ℤ)
    (workplaceEmail : String) (role : StaffRole) : InviteCall Unit := do
  refuseUnless cfg inputs inputs.isRootAdmin "staff_invite_create" "blocked" (some actor) forbidden
  refuseUnless cfg inputs inputs.policyAccepts "staff_invite_create" "blocked" (some actor)
    (.auth "Invalid workplace email" 400)
  requireRootStepUp cfg inputs actor "staff_invite_create"
  let w ← get
  raiseIf (staffIdentityExists cfg workplaceEmail w || activeInviteExists cfg workplaceEmail w)
    inviteCreateError
  mintInvite cfg inputs actor workplaceEmail role none "staff_invite_created"

def resendStaffSetupInvite (cfg : InviteConfig) (inputs : InviteInputs) (actor targetUserId : ℤ) :
    InviteCall Unit := do
  refuseUnless cfg inputs inputs.isRootAdmin "staff_invite_resend" "blocked" (some actor) forbidden
  let w ← get
  let target := (userById targetUserId w).filter fun u =>
    (u.accountType = .staff || u.accountType = .admin) && u.accountStatus = .setupPending &&
      u.id ≠ actor
  match target with
  | none =>
      auditEvent cfg inputs w "staff_invite_resend" "blocked" (some actor)
      throw (.auth "Staff account not found" 404)
  | some user => do
      refuseUnless cfg inputs inputs.policyAccepts "staff_invite_resend" "blocked" (some actor)
        (.auth "Invalid workplace email" 400)
      requireRootStepUp cfg inputs actor "staff_invite_resend"
      let w ← get
      raiseIf (activeInviteExists cfg user.email w) inviteCreateError
      mintInvite cfg inputs actor user.email user.accountType (some user.id) "staff_invite_resent"

/-- The invite of a root administrator's action. -/
def activeInvite (inviteId : ℕ) : InviteCall StaffInvite := do
  let w ← get
  match w.invites.find? fun i => i.id = inviteId && i.active with
  | some invite => pure invite
  | none => throw staffInviteNotFoundError

def revokeStaffInvite (cfg : InviteConfig) (inputs : InviteInputs) (actor : ℤ) (inviteId : ℕ) :
    InviteCall Unit := do
  requireRootStepUp cfg inputs actor "staff_invite_revoked"
  let invite ← activeInvite inviteId
  let committed ← get
  setInvite { invite with status := .revoked, revokedAt := some committed.clock }
  auditEventRequired cfg inputs committed "staff_invite_revoked" "success" (some actor)

/-- The setup user can be deleted. -/
def resettable (cfg : InviteConfig) (invite : StaffInvite) (user : StaffUser) : Bool :=
  user.accountStatus = .setupPending &&
    cfg.casefold user.email = cfg.casefold invite.workplaceEmailNormalized

def resetActiveInviteAcceptance (cfg : InviteConfig) (inputs : InviteInputs) (actor : ℤ)
    (invite : StaffInvite) (eventType : String) : InviteCall StaffInvite := do
  let w ← get
  match setupUser invite w with
  | none => pure invite.cleared
  | some user => do
      refuseUnless cfg inputs (resettable cfg invite user) eventType "blocked" (some actor)
        (genericInviteError 409)
      modify (deleteUser user.id)
      pure { invite.cleared with setupUserId := none }

def reissueStaffInvite (cfg : InviteConfig) (inputs : InviteInputs) (actor : ℤ) (inviteId : ℕ) :
    InviteCall Unit := do
  requireRootStepUp cfg inputs actor "staff_invite_reissued"
  let invite ← activeInvite inviteId
  let committed ← get
  let reset ← resetActiveInviteAcceptance cfg inputs actor invite "staff_invite_reissued"
  if inputs.emailFails then
    set committed
    setInvite { invite with deliveryStatus := .failed }
    auditEvent cfg inputs committed "staff_invite_email" "failure" (some actor)
    throw (.auth "Invite could not be sent" 503)
  else
    setInvite { reset with
      tokenHash := inputs.freshTokenHash
      status := .pending
      deliveryStatus := .queued
      expiresAt := committed.clock + cfg.staffInviteTtlSeconds
      revokedAt := none }
    auditEventRequired cfg inputs committed "staff_invite_reissued" "success" (some actor)
    auditEvent cfg inputs committed "staff_invite_email" "queued" (some actor)

def resetStaffInviteAcceptance (cfg : InviteConfig) (inputs : InviteInputs) (actor : ℤ)
    (inviteId : ℕ) : InviteCall Unit := do
  requireRootStepUp cfg inputs actor "staff_invite_accept_reset"
  let invite ← activeInvite inviteId
  let committed ← get
  let reset ← resetActiveInviteAcceptance cfg inputs actor invite "staff_invite_accept_reset"
  setInvite { reset with status := .pending }
  auditEventRequired cfg inputs committed "staff_invite_accept_reset" "success" (some actor)

/-! ### Acceptance -/

/-- `_active_invite_by_token`. -/
def activeInviteByToken (cfg : InviteConfig) (inputs : InviteInputs) (tokenHash : String) :
    InviteCall StaffInvite := do
  let w ← get
  match w.invites.find? fun i => i.tokenHash = tokenHash with
  | none =>
      auditEvent cfg inputs w "staff_invite_invalid_attempt" "failure" none
      throw (genericInviteError 401)
  | some invite =>
      if invite.expiresAt ≤ w.clock then
        setInvite { invite with status := .expired }
        let expired ← get
        auditEvent cfg inputs expired "staff_invite_expired" "expired" none
        throw (genericInviteError 401)
      else if invite.revokedAt.isSome || invite.status = .revoked || invite.usedAt.isSome ||
          invite.status = .accepted then
        auditEvent cfg inputs w "staff_invite_invalid_attempt" "failure" none
        throw (genericInviteError 401)
      else if !invite.active then throw (genericInviteError 401)
      else pure invite

/-- The invite was started by the browser session of the request. -/
def ownSession (inputs : InviteInputs) (invite : StaffInvite) : Bool :=
  invite.acceptanceSessionHash = some inputs.sessionHash && inputs.sessionHash ≠ ""

def ensureInviteAcceptanceSession (cfg : InviteConfig) (inputs : InviteInputs)
    (invite : StaffInvite) : InviteCall Unit :=
  refuseUnless cfg inputs (ownSession inputs invite) "staff_invite_accept" "blocked" none
    (genericInviteError 401)

/-- An invite that was started belongs to the browser session of that start. -/
def ensureStartedSession (cfg : InviteConfig) (inputs : InviteInputs) (invite : StaffInvite) :
    InviteCall Unit :=
  if invite.acceptanceSessionHash.isSome then ensureInviteAcceptanceSession cfg inputs invite
  else pure ()

def ensureInviteAcceptanceCanStart (cfg : InviteConfig) (inputs : InviteInputs)
    (invite : StaffInvite) : InviteCall Unit := do
  refuseUnless cfg inputs (!invite.acceptanceIsLocked) "staff_invite_accept" "blocked" none
    (inviteAcceptanceError 429)
  ensureStartedSession cfg inputs invite
  if 3 ≤ invite.acceptanceStartCount then do
    let w ← get
    setInvite { invite with acceptanceLockedAt := some w.clock }
    auditEvent cfg inputs w "staff_invite_accept" "blocked" none
    throw (inviteAcceptanceError 429)
  else pure ()

/-- `_reject_duplicate_staff_signup`. -/
def duplicateSignup (cfg : InviteConfig) (inputs : InviteInputs) (email : String)
    (w : InviteWorld) : Bool :=
  inputs.phoneTaken || w.users.any fun u => cfg.casefold u.email = cfg.casefold email

/-- The setup user of the invite: a new one, or the one from an earlier start. -/
def ensureSetupUser (cfg : InviteConfig) (inputs : InviteInputs) (invite : StaffInvite) :
    InviteCall StaffUser := do
  let w ← get
  match setupUser invite w with
  | none => do
      refuseUnless cfg inputs (!duplicateSignup cfg inputs invite.workplaceEmailNormalized w)
        "staff_invite_accept" "failure" none (.auth ("Staff identity details could " ++
          "not be accepted. Ask a root admin to review the invite.") 400)
      let w ← get
      let user : StaffUser :=
        { id := w.nextUserId, email := invite.workplaceEmailNormalized
          accountType := invite.role, accountStatus := .setupPending, mfaEnabled := false }
      modify fun w => { w with users := w.users ++ [user], nextUserId := w.nextUserId + 1 }
      setInvite { invite with setupUserId := some user.id }
      pure user
  | some user => do
      ensureStartedSession cfg inputs invite
      raiseIf (user.accountStatus ≠ .setupPending || user.accountType ≠ invite.role)
        (genericInviteError 401)
      pure user

/-- Its audit event commits the new user and the invite that refers to it, or takes
both back, but for the id. -/
def encryptMfaSecret (cfg : InviteConfig) (inputs : InviteInputs) (committed : InviteWorld)
    (user : StaffUser) : InviteCall Unit := do
  let w ← get
  let rolledBack := { committed with nextUserId := w.nextUserId }
  if inputs.mfaKeyMissing then do
    if inputs.leftoversCommitted then pure () else set rolledBack
    throw .mfaKey
  else auditEvent cfg inputs rolledBack "mfa_secret_encrypt" "success" (some user.id)

/-- The rows of a start, the verification e-mail and the two required events, which
refer to the user. -/
def recordStart (cfg : InviteConfig) (inputs : InviteInputs) (encrypted : InviteWorld)
    (inviteId : ℕ) (user : StaffUser) : InviteCall Unit := do
  setUser { user with mfaEnabled := false }
  changeInvite inviteId fun i => { i with
    status := .totpPending
    acceptanceSessionHash := some inputs.sessionHash
    acceptanceStartCount := i.acceptanceStartCount + 1 }
  raiseIf inputs.emailFails .delivery
  raiseIf (userById user.id encrypted).isNone .auditWrite
  auditEventRequired cfg inputs encrypted "staff_workplace_verification_sent" "queued"
    (some user.id)
  auditEventRequired cfg inputs encrypted "staff_invite_accept_started" "success" (some user.id)

/-- The setup user of the failed start is deleted, or the invite lets go of it. -/
def unlinkSetupUser (invite : StaffInvite) (userId : ℤ) (w : InviteWorld) : InviteWorld :=
  if invite.setupUserId = some userId then
    if (userById userId w).any (·.accountStatus = .setupPending) then deleteUser userId w
    else { w with invites := w.invites.map fun i =>
      if i.id = invite.id then { i with setupUserId := none } else i }
  else w

/-- The invite, read again after the rollback, refers to the setup user only if the
encryption has committed it. -/
def clearFailedInviteAcceptanceStart (inviteId : ℕ) (createdSetupUserId : Option ℤ)
    (w : InviteWorld) : InviteWorld :=
  match createdSetupUserId, w.invites.find? fun i => i.id = inviteId with
  | some userId, some invite =>
      let unlinked := unlinkSetupUser invite userId w
      { unlinked with invites := unlinked.invites.map fun i =>
        if i.id = inviteId then { i.cleared with status := .pending } else i }
  | _, _ => w

def failedStart (cfg : InviteConfig) (inputs : InviteInputs) (encrypted : InviteWorld)
    (inviteId : ℕ) (createdSetupUserId : Option ℤ) : InviteCall Unit := do
  set (clearFailedInviteAcceptanceStart inviteId createdSetupUserId encrypted)
  auditEvent cfg inputs encrypted "staff_workplace_verification_sent" "failure" none
  let audited ← get
  auditEvent cfg inputs audited "staff_invite_accept" "failure" none
  throw (.auth ("Setup could not send the workplace verification code. " ++
    "Ask a root admin to reissue the invite or retry later.") 503)

/-- The start of an invite that has passed the checks. -/
def startCheckedInvite (cfg : InviteConfig) (inputs : InviteInputs) (invite : StaffInvite) :
    InviteCall Unit := do
  let committed ← get
  let user ← ensureSetupUser cfg inputs invite
  let created := if (setupUser invite committed).isSome then none else some user.id
  encryptMfaSecret cfg inputs committed user
  let encrypted ← get
  raiseIf inputs.refreshFails .database
  tryCatch (recordStart cfg inputs encrypted invite.id user)
    fun _ => failedStart cfg inputs encrypted invite.id created

def startInviteAcceptance (cfg : InviteConfig) (inputs : InviteInputs) (tokenHash : String) :
    InviteCall Unit := do
  refuseUnless cfg inputs (!inputs.probeLimited) "staff_invite_accept" "blocked" none
    (.auth "Too many attempts. Please try again later." 429)
  refuseUnless cfg inputs (!inputs.forgedFields) "staff_invite_accept" "failure" none
    (.auth "Invalid request" 400)
  refuseUnless cfg inputs (!inputs.turnstileFails) "staff_invite_accept" "failure" none
    (.auth "Complete the security challenge before starting setup." 400)
  let invite ← activeInviteByToken cfg inputs tokenHash
  refuseUnless cfg inputs inputs.policyAccepts "staff_invite_accept" "blocked" none
    (genericInviteError 401)
  ensureInviteAcceptanceCanStart cfg inputs invite
  refuseUnless cfg inputs inputs.detailsValid "staff_invite_accept" "failure" none
    (.auth "Invalid details" 400)
  startCheckedInvite cfg inputs invite

/-- `reason` names the code that was wrong, by the event of a failure and its
error. -/
def recordInviteAcceptanceVerifyFailure (cfg : InviteConfig) (inputs : InviteInputs)
    (invite : StaffInvite) (user : StaffUser) (reason : String × InviteError) :
    InviteCall Unit := do
  let w ← get
  let count := invite.acceptanceVerifyCount + 1
  if 5 ≤ count then
    setInvite { invite with
      acceptanceVerifyCount := count, acceptanceVerifyLockedAt := some w.clock }
    auditEvent cfg inputs w "staff_invite_accept_verify" "locked" (some user.id)
    throw (genericInviteError 429)
  else
    setInvite { invite with acceptanceVerifyCount := count }
    auditEvent cfg inputs w reason.1 "failure" (some user.id)
    throw reason.2

def activateStaff (cfg : InviteConfig) (inputs : InviteInputs) (invite : StaffInvite)
    (user : StaffUser) : InviteCall Unit := do
  let committed ← get
  setUser { user with mfaEnabled := true, accountStatus := .active }
  setInvite { invite.cleared with
    status := .accepted, usedAt := some committed.clock, usedByUserId := some user.id }
  auditEventRequired cfg inputs committed "staff_totp_setup" "success" (some user.id)
  auditEventRequired cfg inputs committed "staff_workplace_verification" "success" (some user.id)
  auditEventRequired cfg inputs committed "staff_account_activated" "success" (some user.id)

def verifyInviteAcceptance (cfg : InviteConfig) (inputs : InviteInputs) (tokenHash : String) :
    InviteCall Unit := do
  refuseUnless cfg inputs (!inputs.probeLimited) "staff_invite_accept" "blocked" none
    (.auth "Too many attempts. Please try again later." 429)
  refuseUnless cfg inputs (!inputs.forgedFields) "staff_invite_accept" "failure" none
    (.auth "Invalid request" 400)
  let invite ← activeInviteByToken cfg inputs tokenHash
  refuseUnless cfg inputs inputs.policyAccepts "staff_invite_accept" "blocked" none
    (genericInviteError 401)
  refuseUnless cfg inputs (!invite.acceptanceIsLocked) "staff_invite_accept" "blocked" none
    (inviteAcceptanceError 429)
  ensureInviteAcceptanceSession cfg inputs invite
  let w ← get
  match (setupUser invite w).filter fun u =>
      u.accountStatus = .setupPending && u.accountType = invite.role with
  | none =>
      auditEvent cfg inputs w "staff_invite_accept" "failure" none
      throw (genericInviteError 401)
  | some user =>
      if !inputs.mfaSetupActive then
        setInvite { invite with status := .pending }
        let reopened ← get
        auditEvent cfg inputs reopened "staff_totp_setup" "expired" (some user.id)
        throw (genericInviteError 401)
      else if inputs.totpReplayed then
        auditEvent cfg inputs w "staff_totp_setup" "failure" (some user.id)
        throw (.auth "Invalid authentication code." 401)
      else if !inputs.totpValid then
        recordInviteAcceptanceVerifyFailure cfg inputs invite user
          ("staff_totp_setup", .auth "Invalid authentication code." 401)
      else if !inputs.workplaceCodeValid then
        recordInviteAcceptanceVerifyFailure cfg inputs invite user
          ("staff_workplace_verification", .auth "Workplace verification failed" 401)
      else activateStaff cfg inputs invite user

/-! ### What requests keep

The parts of a request that write only events, for any property of the rows that
holds whatever the log says. -/

section Keeping

/-- The property holds also after one more event. -/
def WriteStable (cfg : InviteConfig) (P : InviteWorld → Prop) : Prop :=
  ∀ s d, P s → P { s with log := s.log.write cfg.toAuditConfig d }

variable {cfg : InviteConfig} {P : InviteWorld → Prop} (hP : WriteStable cfg P) {s : InviteWorld}

include hP

theorem ends_auditEvent {committed : InviteWorld} (h : P s) (hc : P committed)
    (inputs : InviteInputs) (eventType outcome : String) (userId : Option ℤ) :
    Ends (auditEvent cfg inputs committed eventType outcome userId)
      (fun _ s' => P s') s := by
  unfold auditEvent
  split
  · exact hc
  · exact hP _ _ h

omit hP in
/-- How a required event ends. -/
theorem auditEventRequired_spec (inputs : InviteInputs) (committed : InviteWorld)
    (eventType outcome : String) (userId : Option ℤ) :
    Ends (auditEventRequired cfg inputs committed eventType outcome userId)
      (fun r s' => match r with
      | .ok _ => inputs.unwritable cfg eventType outcome = false ∧ s' =
          { s with log := s.log.write cfg.toAuditConfig (inputs.draft eventType outcome userId) }
      | .error _ => inputs.unwritable cfg eventType outcome = true ∧
          s' = if inputs.leftoversCommitted then s else committed) s := by
  unfold auditEventRequired
  split
  · next hfails =>
      by_cases hl : inputs.leftoversCommitted = true
      · simp only [hl, if_true]
        exact ⟨hfails, rfl⟩
      · simp only [hl]
        exact ⟨hfails, rfl⟩
  · next hfails => exact ⟨Bool.eq_false_iff.mpr hfails, rfl⟩

theorem ends_auditEventRequired {committed : InviteWorld} (h : P s)
    (hc : P committed) (inputs : InviteInputs) (eventType outcome : String)
    (userId : Option ℤ) :
    Ends (auditEventRequired cfg inputs committed eventType outcome userId)
      (fun _ s' => P s') s := by
  refine (auditEventRequired_spec inputs committed eventType outcome userId).mono fun r s' hr => ?_
  cases r with
  | ok _ =>
      rw [hr.2]
      exact hP _ _ h
  | error _ =>
      rw [hr.2]
      split
      · exact h
      · exact hc

theorem ends_refuseUnless (h : P s) (inputs : InviteInputs) (ok : Bool)
    (eventType outcome : String) (userId : Option ℤ) (error : InviteError) :
    Ends (refuseUnless cfg inputs ok eventType outcome userId error) (fun r s' => match r with
      | .ok _ => s' = s ∧ ok = true
      | .error _ => P s') s := by
  refine Ends.get_bind ?_
  split
  · next hok => exact ⟨rfl, hok⟩
  · exact (ends_auditEvent hP h h inputs eventType outcome userId).bind (fun _ _ h => h)
      fun _ _ h => h

theorem ends_requireRootStepUp (h : P s) (inputs : InviteInputs) (actor : ℤ)
    (eventType : String) :
    Ends (requireRootStepUp cfg inputs actor eventType) (fun r s' => match r with
      | .ok _ => s' = s ∧ inputs.isRootAdmin = true ∧ inputs.stepUpAccepted = true
      | .error _ => P s') s := by
  refine Ends.raiseIf_bind (fun _ => h) fun hroot => ?_
  refine (ends_refuseUnless hP h inputs _ _ _ _ _).mono fun r s' hr => ?_
  cases r with
  | ok _ => exact ⟨hr.1, by simpa using hroot, hr.2⟩
  | error _ => exact hr

omit hP in
theorem ends_activeInvite (h : P s) (inviteId : ℕ) :
    Ends (activeInvite inviteId) (fun r s' => match r with
      | .ok invite => s' = s ∧
          s.invites.find? (fun i => i.id = inviteId && i.active) = some invite
      | .error _ => P s') s := by
  refine Ends.get_bind ?_
  split
  · next invite hfind => exact ⟨rfl, hfind⟩
  · exact h

theorem ends_ensureInviteAcceptanceSession (h : P s) (inputs : InviteInputs)
    (invite : StaffInvite) :
    Ends (ensureInviteAcceptanceSession cfg inputs invite) (fun r s' => match r with
      | .ok _ => s' = s ∧ ownSession inputs invite = true
      | .error _ => P s') s := by
  refine (ends_refuseUnless hP h inputs _ _ _ _ _).mono fun r s' hr => ?_
  cases r with
  | ok _ => exact hr
  | error _ => exact hr

theorem ends_ensureStartedSession (h : P s) (inputs : InviteInputs)
    (invite : StaffInvite) :
    Ends (ensureStartedSession cfg inputs invite) (fun r s' => match r with
      | .ok _ => s' = s ∧ (invite.acceptanceSessionHash.isNone || ownSession inputs invite) = true
      | .error _ => P s') s := by
  unfold ensureStartedSession
  split
  · refine (ends_ensureInviteAcceptanceSession hP h inputs invite).mono fun r s' hr => ?_
    cases r with
    | ok _ => exact ⟨hr.1, by simp [hr.2]⟩
    | error _ => exact hr
  · next hnone => exact Ends.pure ⟨rfl, by simpa using Or.inl hnone⟩

end Keeping

/-! ### Requests -/

inductive InviteOp
  | createStaffInvite (inputs : InviteInputs) (actor : ℤ) (workplaceEmail : String)
      (role : StaffRole)
  | resendStaffSetupInvite (inputs : InviteInputs) (actor targetUserId : ℤ)
  | revokeStaffInvite (inputs : InviteInputs) (actor : ℤ) (inviteId : ℕ)
  | reissueStaffInvite (inputs : InviteInputs) (actor : ℤ) (inviteId : ℕ)
  | resetStaffInviteAcceptance (inputs : InviteInputs) (actor : ℤ) (inviteId : ℕ)
  | startInviteAcceptance (inputs : InviteInputs) (tokenHash : String)
  | verifyInviteAcceptance (inputs : InviteInputs) (tokenHash : String)
  /-- The event of any other request, about a user that exists or about nobody. -/
  | audited (draft : AuditDraft)
  /-- A user registers. -/
  | register (email : String) (accountType : StaffRole)
  /-- Another request changes a user. -/
  | changeUser (user : StaffUser)
  | wait (seconds : ℕ)

/-- The foreign key of an event. -/
def names (draft : AuditDraft) (w : InviteWorld) : Bool :=
  draft.userId.all fun id => (userById id w).isSome

def InviteOp.call (cfg : InviteConfig) : InviteOp → InviteCall Unit
  | .createStaffInvite inputs actor email role =>
      Admin.createStaffInvite cfg inputs actor email role
  | .resendStaffSetupInvite inputs actor target =>
      Admin.resendStaffSetupInvite cfg inputs actor target
  | .revokeStaffInvite inputs actor inviteId => Admin.revokeStaffInvite cfg inputs actor inviteId
  | .reissueStaffInvite inputs actor inviteId => Admin.reissueStaffInvite cfg inputs actor inviteId
  | .resetStaffInviteAcceptance inputs actor inviteId =>
      Admin.resetStaffInviteAcceptance cfg inputs actor inviteId
  | .startInviteAcceptance inputs tokenHash => Admin.startInviteAcceptance cfg inputs tokenHash
  | .verifyInviteAcceptance inputs tokenHash => Admin.verifyInviteAcceptance cfg inputs tokenHash
  | .audited draft => modify fun w =>
      if names draft w then { w with log := w.log.write cfg.toAuditConfig draft } else w
  | .register email accountType => modify fun w =>
      { w with
        users := w.users ++ [⟨w.nextUserId, email, accountType, .active, false⟩]
        nextUserId := w.nextUserId + 1 }
  | .changeUser user => setUser user
  | .wait seconds => modify fun w => { w with clock := w.clock + seconds }

/-! ### A sample deployment -/

/-- A digest that tells payloads of odd length from those of even length. -/
def parityConfig : InviteConfig where
  keyUsable := true
  hmacSha256 m := String.ofList (List.replicate 64 (if m.length % 2 = 0 then 'a' else 'b'))
  sha256 _ := String.ofList (List.replicate 64 'c')
  staffInviteTtlSeconds := 900
  casefold := String.toLower

/-- Every check passes. -/
def willingInputs : InviteInputs where
  ipAddress := "10.0.0.1"
  userAgent := "browser"
  correlationId := "c"
  sessionRef := none
  createdAt := 0
  metadata _ := .null
  isRootAdmin := true
  stepUpAccepted := true
  policyAccepts := true
  probeLimited := false
  forgedFields := false
  turnstileFails := false
  freshTokenHash := "t"
  sessionHash := "s"
  detailsValid := true
  phoneTaken := false
  emailFails := false
  mfaSetupActive := true
  totpValid := true
  totpReplayed := false
  workplaceCodeValid := true
  mfaKeyMissing := false
  refreshFails := false
  auditFails _ _ := false
  leftoversCommitted := false

def emptyInviteWorld : InviteWorld where
  clock := 0
  users := []
  nextUserId := 1
  invites := []
  nextInviteId := 1
  log := { rows := [], sorted := sorted_nil, nextId := 1, lt_nextId := lt_one_nil }

/-- The state after requests. -/
def afterOps (cfg : InviteConfig) (ops : List InviteOp) : InviteWorld :=
  ops.foldl (fun w op => after (op.call cfg) w) emptyInviteWorld

end SitBank.Admin
