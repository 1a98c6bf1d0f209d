import Mathlib.Data.List.Sort
import SitBank.Admin.CustomerLocks

/-!
What the staff decides about for customers: their accounts and locks, requests for
manual recovery (`app/auth/password_reset.py`), disputes and support tickets
(`app/admin/services.py`).

Requests run one at a time, over the state of `LockWorld` and the tables of the
records. An exception in the executor of an approved request rolls back; elsewhere
`LockInputs.leftoversCommitted` says what becomes of unfinished changes. Events that
need not be written are left out, except for those between a change and its commit.
-/

namespace SitBank.Admin

open SitBank.Interaction SitBank.Python

/-! ### Rows -/

inductive RecoveryStatus
  | pending
  | underReview
  | approved
  | denied
  | expired
  | cancelled
  | completed
  deriving DecidableEq, Repr

def RecoveryStatus.text : RecoveryStatus → String
  | .pending => "pending"
  | .underReview => "under_review"
  | .approved => "approved"
  | .denied => "denied"
  | .expired => "expired"
  | .cancelled => "cancelled"
  | .completed => "completed"

def manualRecoveryStatuses : List RecoveryStatus :=
  [.pending, .underReview, .approved, .denied, .expired, .cancelled, .completed]

def manualRecoveryActiveStatuses : List RecoveryStatus := [.pending, .underReview, .approved]

def manualRecoveryAllowedTransitions : RecoveryStatus → List RecoveryStatus
  | .pending => [.underReview, .denied, .expired, .cancelled]
  | .underReview => [.approved, .denied, .expired, .cancelled]
  | .approved => [.completed, .expired, .cancelled]
  | _ => []

/-- `MANUAL_RECOVERY_ADMIN_TRANSITION_STATUSES`. -/
def manualRecoveryAdminTransitionStatuses : List RecoveryStatus :=
  [.underReview, .approved, .denied]

structure ManualRecoveryRequest where
  id : ℤ
  identifierRef : String
  userId : Option ℤ
  status : RecoveryStatus
  requestCount : ℕ
  createdAt : ℤ
  expiresAt : ℤ
  completedAt : Option ℤ
  deriving DecidableEq, Repr

/-- A record whose status the staff changes: a dispute or a support ticket. -/
structure StaffCase (S : Type) where
  id : ℤ
  /-- `reporter_id` of a dispute, `user_id` of a ticket. -/
  ownerId : ℤ
  status : S
  resolverId : Option ℤ
  resolutionNote : Option (List Char)
  decidedAt : Option ℤ
  deriving DecidableEq, Repr

inductive DisputeStatus
  | opened
  | underReview
  | resolved
  | rejected
  deriving DecidableEq, Repr

inductive TicketStatus
  | opened
  | inReview
  | resolved
  | closed
  deriving DecidableEq, Repr

abbrev TransactionDispute := StaffCase DisputeStatus

abbrev SupportTicket := StaffCase TicketStatus

structure CaseWorld extends LockWorld where
  recoveries : List ManualRecoveryRequest
  nextRecoveryId : ℤ
  disputes : List TransactionDispute
  tickets : List SupportTicket
  nextTicketId : ℤ

structure CaseConfig extends LockConfig where
  /-- `MANUAL_RECOVERY_REQUEST_TTL_SECONDS`, in microseconds. -/
  manualRecoveryRequestTtl : ℤ
  /-- The identifier is the user name or the e-mail of the account. -/
  identifies : String → LockUser → Bool
  /-- The name or the e-mail of the account looks like that of an administrator. -/
  adminName : LockUser → Bool
  /-- `principal_reference(identifier)`. -/
  identifierRef : String → String

abbrev CaseCall (α : Type) := Call CaseWorld LockError α

/-- A call that reads and writes accounts, locks and approval requests only. -/
def onLocks {α : Type} (m : LockCall α) : CaseCall α := fun w =>
  match m w.toLockWorld with
  | .ok a locks => .ok a { w with toLockWorld := locks }
  | .error e locks => .error e { w with toLockWorld := locks }

/-- `audit_event_required`, as in `requireEvent`. -/
def requireCaseEvent (inputs : LockInputs) (committed : CaseWorld) (eventType : String) :
    CaseCall Unit :=
  if inputs.auditFails eventType then do
    if inputs.leftoversCommitted then pure () else set committed
    throw .auditWrite
  else pure ()

/-- `audit_event` commits with the event, or rolls back. -/
def noteEvent (inputs : LockInputs) (committed : CaseWorld) (eventType : String) :
    CaseCall Unit :=
  if inputs.auditFails eventType then set committed else pure ()

/-! ### Manual recovery -/

def recoveryById (id : ℤ) (w : CaseWorld) : Option ManualRecoveryRequest :=
  w.recoveries.find? fun r => r.id = id

def manualRecoveryRequestOrError (id : ℤ) : CaseCall ManualRecoveryRequest := do
  let w ← get
  match recoveryById id w with
  | some r => pure r
  | none => throw (.auth "Manual recovery request not found" 404)

def setRecovery (id : ℤ) (f : ManualRecoveryRequest → ManualRecoveryRequest) (w : CaseWorld) :
    CaseWorld :=
  { w with recoveries := w.recoveries.map fun r => if r.id = id then f r else r }

def setManualRecoveryStatus (status : RecoveryStatus) (now : ℤ) (r : ManualRecoveryRequest) :
    ManualRecoveryRequest :=
  { r with
    status := status
    completedAt := if status = .completed then some now else r.completedAt }

/-- `_expire_manual_recovery_if_stale` expires the request. -/
def isStaleRecovery (now : ℤ) (r : ManualRecoveryRequest) : Bool :=
  manualRecoveryActiveStatuses.contains r.status && r.expiresAt ≤ now

/-- The status with this text. -/
def recoveryStatusOf (text : PyStr) : Option RecoveryStatus :=
  manualRecoveryStatuses.find? fun status => PyStr.ofString status.text = text

def normalizeManualRecoveryStatus (cfg : CaseConfig) (status : PyStr) :
    CaseCall RecoveryStatus :=
  match recoveryStatusOf (normalText cfg.toTextOps status) with
  | some status => pure status
  | none => throw (.auth "Invalid manual recovery status" 400)

/-- The event of `_audit_manual_recovery_transition`. -/
def recoveryEventType (newStatus : RecoveryStatus) : String :=
  if newStatus = .expired then "manual_recovery_expired" else "manual_recovery_status_changed"

/-- The status of the request changes, with its event. -/
def moveRecovery (inputs : LockInputs) (r : ManualRecoveryRequest) (status : RecoveryStatus) :
    CaseCall Unit := do
  let committed ← get
  modify (setRecovery r.id (setManualRecoveryStatus status committed.clock))
  requireCaseEvent inputs committed (recoveryEventType status)

/-- An active request past its time expires here, and the operation stops. -/
def refuseStaleRecovery (inputs : LockInputs) (r : ManualRecoveryRequest) : CaseCall Unit := do
  let w ← get
  if isStaleRecovery w.clock r then do
    moveRecovery inputs r .expired
    throw (.auth "Manual recovery request is expired" 409)
  else pure ()

def transitionManualRecoveryRequest (cfg : CaseConfig) (inputs : LockInputs) (requestId : ℤ)
    (newStatus : PyStr) : CaseCall Unit := do
  let r ← manualRecoveryRequestOrError requestId
  refuseStaleRecovery inputs r
  let status ← normalizeManualRecoveryStatus cfg newStatus
  if status = r.status then pure ()
  else do
    raiseIf (!(manualRecoveryAllowedTransitions r.status).contains status)
      (.auth "Invalid manual recovery status transition" 409)
    moveRecovery inputs r status

/-- `_is_admin_like_user`. -/
def isAdminLikeUser (cfg : CaseConfig) (user : LockUser) : Bool :=
  user.accountType ≠ .customer || cfg.adminName user

def accountResetBlocked (user : LockUser) : Bool := user.isFrozen || user.securityLockedAt.isSome

def recoveryOwner (w : CaseWorld) (r : ManualRecoveryRequest) : Option LockUser :=
  r.userId.bind fun id => lockUserById id w.toLockWorld

/-- The recovered customer enrolls a second factor again. -/
def resetMfa (userId : ℤ) (w : CaseWorld) : CaseWorld :=
  { w with
    toLockWorld := updateUser userId (fun u => { u with mfaEnabled := false }) w.toLockWorld }

def recoveryUserOrError (cfg : CaseConfig) (r : ManualRecoveryRequest) : CaseCall LockUser := do
  let w ← get
  match recoveryOwner w r with
  | none => throw (.auth "Manual recovery request cannot be completed" 409)
  | some user => do
      raiseIf (isAdminLikeUser cfg user || accountResetBlocked user)
        (.auth "Manual recovery request cannot be completed" 409)
      pure user

def completeManualRecoveryRequest (cfg : CaseConfig) (inputs : LockInputs) (requestId : ℤ) :
    CaseCall Unit := do
  let r ← manualRecoveryRequestOrError requestId
  refuseStaleRecovery inputs r
  raiseIf (r.status ≠ .approved)
    (.auth "Manual recovery request must be approved before completion" 409)
  let user ← recoveryUserOrError cfg r
  let committed ← get
  modify (resetMfa user.id)
  modify (setRecovery r.id (setManualRecoveryStatus .completed committed.clock))
  requireCaseEvent inputs committed "manual_recovery_completed"

/-- The rows of `expire_manual_recovery_requests`, in its order. -/
def staleRecoveries (identifierRef : Option String) (limit : Option ℤ) (w : CaseWorld) :
    List ManualRecoveryRequest :=
  let rows := (w.recoveries.filter fun r => isStaleRecovery w.clock r &&
    identifierRef.all (· = r.identifierRef)).insertionSort fun r s =>
      r.expiresAt < s.expiresAt ∨ r.expiresAt = s.expiresAt ∧ r.id ≤ s.id
  match limit with
  | none => rows
  | some n => rows.take (max 1 n).toNat

/-- The rows with these ids expire. -/
def expireRows (ids : List ℤ) (w : CaseWorld) : CaseWorld :=
  { w with
    recoveries := w.recoveries.map fun r =>
      if ids.contains r.id then setManualRecoveryStatus .expired w.clock r else r }

def expireManualRecoveryRequests (inputs : LockInputs) (identifierRef : Option String)
    (limit : Option ℤ) : CaseCall Unit := do
  let committed ← get
  let rows := staleRecoveries identifierRef limit committed
  if rows.isEmpty then pure ()
  else do
    modify (expireRows (rows.map (·.id)))
    requireCaseEvent inputs committed "manual_recovery_expired"

/-- The newest active request with this reference. -/
def activeManualRecoveryRequest (identifierRef : String) (w : CaseWorld) :
    Option ManualRecoveryRequest :=
  ((w.recoveries.filter fun r => r.identifierRef = identifierRef &&
      manualRecoveryActiveStatuses.contains r.status && w.clock < r.expiresAt).insertionSort
    fun r s => s.createdAt < r.createdAt ∨ r.createdAt = s.createdAt ∧ s.id ≤ r.id).head?

def findCustomerUser (cfg : CaseConfig) (identifier : String) (w : CaseWorld) : Option LockUser :=
  w.users.find? fun u => cfg.identifies identifier u && u.accountType = .customer

/-- What a customer submits. -/
structure RecoverySubmission where
  identifier : String
  /-- The limit of submissions is used up. -/
  limited : Bool
  /-- The ticket for the staff cannot be stored. -/
  ticketFails : Bool

def addRecovery (cfg : CaseConfig) (identifierRef : String) (userId : Option ℤ) (w : CaseWorld) :
    CaseWorld :=
  { w with
    recoveries := w.recoveries ++ [{
      id := w.nextRecoveryId
      identifierRef := identifierRef
      userId := userId
      status := .pending
      requestCount := 1
      createdAt := w.clock
      expiresAt := w.clock + cfg.manualRecoveryRequestTtl
      completedAt := none }]
    nextRecoveryId := w.nextRecoveryId + 1 }

/-- A new ticket of the customer. -/
def addTicket (userId : ℤ) (w : CaseWorld) : CaseWorld :=
  { w with
    tickets := w.tickets ++ [⟨w.nextTicketId, userId, .opened, none, none, none⟩]
    nextTicketId := w.nextTicketId + 1 }

/-- `_create_account_recovery_support_ticket`, when there is a customer. -/
def createRecoveryTicket (submission : RecoverySubmission) (user : Option LockUser) :
    CaseCall Unit :=
  match user with
  | none => pure ()
  | some user => if submission.ticketFails then pure () else modify (addTicket user.id)

def requestManualRecovery (cfg : CaseConfig) (inputs : LockInputs)
    (submission : RecoverySubmission) : CaseCall Unit := do
  raiseIf submission.limited (.auth "Too many attempts. Please try again later." 429)
  let w ← get
  let linkedUser := (findCustomerUser cfg submission.identifier w).filter
    fun u => !isAdminLikeUser cfg u
  let identifierRef := cfg.identifierRef submission.identifier
  expireManualRecoveryRequests inputs (some identifierRef) none
  let committed ← get
  match activeManualRecoveryRequest identifierRef committed with
  | some r => do
      modify (setRecovery r.id fun r => { r with requestCount := r.requestCount + 1 })
      requireCaseEvent inputs committed "manual_recovery_requested"
  | none => do
      modify (addRecovery cfg identifierRef (linkedUser.map (·.id)))
      requireCaseEvent inputs committed "manual_recovery_requested"
      createRecoveryTicket submission linkedUser

/-! ### Manual recovery by root administrators -/

def isRootAdmin (cfg : CaseConfig) (user : LockUser) : Bool :=
  user.accountType = .rootAdmin && cfg.isAdminWorkplaceEmail user.email &&
    cfg.isRootAdminEmail user.email

def rootAdmin (cfg : CaseConfig) (actorId : ℤ) : CaseCall LockUser := do
  let actor ← onLocks (userOrError actorId forbiddenError)
  raiseIf (!isRootAdmin cfg actor) forbiddenError
  pure actor

/-- A request without a customer concerns nobody. -/
def assertNotSelfManualRecoveryAction (cfg : CaseConfig) (actor : LockUser) (requestId : ℤ) :
    CaseCall Unit := do
  let w ← get
  match (recoveryById requestId w).bind (recoveryOwner w) with
  | none => pure ()
  | some target => onLocks (assertNotSelfCustomerAction cfg.toLockConfig actor target)

/-- What both validations begin with: past its time a request becomes expired,
whatever its status is. -/
def unexpiredRecovery (inputs : LockInputs) (eventType : String) (requestId : ℤ) :
    CaseCall ManualRecoveryRequest := do
  let r ← manualRecoveryRequestOrError requestId
  let committed ← get
  if r.expiresAt ≤ committed.clock then do
    modify (setRecovery r.id fun r => { r with status := .expired })
    noteEvent inputs committed eventType
    throw (.auth "Manual recovery request is expired" 409)
  else pure r

/-- The decisions that `_validate_manual_recovery_transition_request` allows. -/
def adminDecisions : RecoveryStatus → List RecoveryDecision
  | .pending => [.denied]
  | .underReview => [.approved, .denied]
  | _ => []

def validateManualRecoveryTransitionRequest (inputs : LockInputs) (requestId : ℤ)
    (decision : RecoveryDecision) : CaseCall Unit := do
  let r ← unexpiredRecovery inputs "manual_recovery_admin_transition" requestId
  raiseIf (!(adminDecisions r.status).contains decision)
    (.auth "Invalid manual recovery status transition" 409)

def validateManualRecoveryCompletionRequest (inputs : LockInputs) (requestId : ℤ) :
    CaseCall Unit := do
  let r ← unexpiredRecovery inputs "manual_recovery_admin_complete" requestId
  raiseIf (r.status ≠ .approved)
    (.auth "Manual recovery request must be approved before completion" 409)

/-- `_create_admin_action_request`. -/
def requestAdminAction (cfg : LockConfig) (inputs : LockInputs) (actor : LockUser)
    (operation : AdminOperation) (targetId : ℤ) : LockCall Unit := do
  let committed ← get
  modify (addRequest cfg
    { operation := operation
      targetId := targetId
      id := committed.nextRequestId
      requesterId := actor.id
      requesterRole := "root_admin"
      reason := inputs.reason
      now := committed.clock })
  requireEvent inputs committed "admin_action_request_created"

/-- The key of `MANUAL_RECOVERY_STATUS_OPERATION_TYPES` with this text. -/
def recoveryDecisionOf (text : PyStr) : Option RecoveryDecision :=
  [RecoveryDecision.approved, .denied].find? fun d => PyStr.ofString d.text = text

/-- The code comes before the customer is looked at. -/
def recoveryStepUp (cfg : CaseConfig) (inputs : LockInputs) (actor : LockUser) (requestId : ℤ) :
    CaseCall Unit := do
  onLocks (requireReason inputs)
  onLocks (requireFreshCode cfg.toLockConfig inputs actor)
  assertNotSelfManualRecoveryAction cfg actor requestId

def transitionManualRecoveryRequestAsAdmin (cfg : CaseConfig) (inputs : LockInputs)
    (actorId requestId : ℤ) (status : PyStr) : CaseCall Unit := do
  let actor ← rootAdmin cfg actorId
  let text := normalText cfg.toTextOps status
  raiseIf (!(recoveryStatusOf text).any manualRecoveryAdminTransitionStatuses.contains)
    (.auth "Invalid manual recovery status" 400)
  recoveryStepUp cfg inputs actor requestId
  match recoveryDecisionOf text with
  | some decision => do
      validateManualRecoveryTransitionRequest inputs requestId decision
      onLocks (requestAdminAction cfg.toLockConfig inputs actor (.recovery decision) requestId)
  | none => transitionManualRecoveryRequest cfg inputs requestId text

def completeManualRecoveryRequestAsAdmin (cfg : CaseConfig) (inputs : LockInputs)
    (actorId requestId : ℤ) : CaseCall Unit := do
  let actor ← rootAdmin cfg actorId
  recoveryStepUp cfg inputs actor requestId
  validateManualRecoveryCompletionRequest inputs requestId
  onLocks (requestAdminAction cfg.toLockConfig inputs actor .recoveryComplete requestId)

/-! ### Approvals -/

/-- The recovery that the approval is for. -/
def recoveryTarget (r : AdminActionRequest) (w : CaseWorld) : Option ManualRecoveryRequest :=
  w.recoveries.find? fun x => idText x.id = r.targetId

def recoveryTargetOrError (r : AdminActionRequest) : CaseCall ManualRecoveryRequest := do
  let w ← get
  match recoveryTarget r w with
  | some x => pure x
  | none => throw (.auth "Manual recovery request not found" 404)

/-- The executor, for the requests that concern customers. It returns the state of
its last commit: recoveries are committed here, an unlock is not. -/
def executeRequest (cfg : CaseConfig) (inputs : LockInputs) (actor : LockUser)
    (r : AdminActionRequest) : CaseCall CaseWorld :=
  match operationKind r.operationType with
  | .recoveryTransition => do
      let x ← recoveryTargetOrError r
      assertNotSelfManualRecoveryAction cfg actor x.id
      transitionManualRecoveryRequest cfg inputs x.id (payloadText cfg.toTextOps r statusKey)
      get
  | .recoveryComplete => do
      let x ← recoveryTargetOrError r
      assertNotSelfManualRecoveryAction cfg actor x.id
      completeManualRecoveryRequest cfg inputs x.id
      get
  | .securityUnlock => do
      let committed ← get
      onLocks (executeCustomerSecurityUnlock cfg.toLockConfig inputs actor r)
      pure committed
  | _ => throw (.auth "Admin action request cannot be executed" 409)

/-- What an approval checks before it executes the request. -/
def approvableRequest (cfg : LockConfig) (inputs : LockInputs) (actor : LockUser)
    (requestId : ℤ) : LockCall AdminActionRequest := do
  let r ← signedPendingRequest cfg inputs requestId
  let w ← get
  raiseIf (!(lockUserById r.requesterId w).any (isActiveRootAdmin cfg))
    (.auth "Admin action requester is no longer eligible" 409)
  raiseIf (r.requesterId = actor.id)
    (.auth "Requester cannot approve their own admin action request" 403)
  requireFreshCode cfg inputs actor
  pure r

/-- What becomes of a request whose execution raised, after the rollback. -/
def executionFailed (inputs : LockInputs) (actor : LockUser) (requestId : ℤ) :
    CaseCall CaseWorld := do
  let committed ← get
  onLocks (markExecutionFailed inputs committed.toLockWorld actor requestId)
  pure committed

/-- `approve_admin_action_request_as_root_admin`, for requests of every kind. -/
def approveRequest (cfg : CaseConfig) (inputs : LockInputs) (actorId requestId : ℤ) :
    CaseCall Unit := do
  let actor ← onLocks (activeRootAdmin cfg.toLockConfig actorId)
  let r ← onLocks (approvableRequest cfg.toLockConfig inputs actor requestId)
  let committed ← tryCatch
    (executeRequest cfg { inputs with leftoversCommitted := false } actor r)
    fun _ => executionFailed inputs actor requestId
  modify fun w => { w with
    toLockWorld := setRequest requestId (decided (some actor.id) .executed) w.toLockWorld }
  requireCaseEvent inputs committed "admin_action_request_executed"

/-! ### Disputes and support tickets -/

/-- What the two kinds of records differ in. -/
structure CaseKind (S : Type) where
  eventType : String
  transitions : S → List S
  /-- The statuses that set the time of the decision. -/
  decided : List S
  rows : CaseWorld → List (StaffCase S)
  setRows : List (StaffCase S) → CaseWorld → CaseWorld

def disputeKind : CaseKind DisputeStatus where
  eventType := "transaction_dispute_status_change"
  transitions
    | .opened => [.underReview, .resolved, .rejected]
    | .underReview => [.resolved, .rejected]
    | _ => []
  decided := [.resolved, .rejected]
  rows := CaseWorld.disputes
  setRows rows w := { w with disputes := rows }

def ticketKind : CaseKind TicketStatus where
  eventType := "support_ticket_status_change"
  transitions
    | .opened => [.inReview, .resolved, .closed]
    | .inReview => [.resolved, .closed]
    | _ => []
  decided := [.resolved, .closed]
  rows := CaseWorld.tickets
  setRows rows w := { w with tickets := rows }

section Cases

variable {S : Type} [DecidableEq S] (kind : CaseKind S)

def caseById (id : ℤ) (w : CaseWorld) : Option (StaffCase S) :=
  (kind.rows w).find? fun c => c.id = id

def caseOrError (id : ℤ) : CaseCall (StaffCase S) := do
  let w ← get
  match caseById kind id w with
  | some c => pure c
  | none => throw (.auth "Not found" 404)

/-- `str(resolution_note or "").strip() or None`. -/
def noteText (note : String) : Option (List Char) :=
  if (strip note.toList).isEmpty then none else some (strip note.toList)

def resolvedCase (actor : LockUser) (newStatus : S) (note : String) (now : ℤ)
    (c : StaffCase S) : StaffCase S :=
  { c with
    status := newStatus
    resolverId := some actor.id
    resolutionNote := noteText note
    decidedAt := if kind.decided.contains newStatus then some now else c.decidedAt }

/-- The update matches a row only while its status is the one that was read. -/
def updateCase (c : StaffCase S) (f : StaffCase S → StaffCase S) (w : CaseWorld) : CaseWorld :=
  kind.setRows
    ((kind.rows w).map fun x => if x.id = c.id ∧ x.status = c.status then f x else x) w

/-- The status change of both kinds. It does not look at the owner. -/
def transitionStatusForStaff (inputs : LockInputs) (actorId caseId : ℤ) (newStatus : S)
    (note : String) : CaseCall Unit := do
  let actor ← onLocks (userOrError actorId forbiddenError)
  raiseIf (!isPlainStaffUser actor) forbiddenError
  let c ← caseOrError kind caseId
  raiseIf (!(kind.transitions c.status).contains newStatus) (.auth "Invalid status transition" 409)
  let committed ← get
  modify (updateCase kind c (resolvedCase kind actor newStatus note committed.clock))
  -- this caller rolls back itself
  if inputs.auditFails kind.eventType then do
    set committed
    throw .auditWrite
  else pure ()

end Cases

def transitionDisputeStatusForStaff (inputs : LockInputs) (actorId disputeId : ℤ)
    (newStatus : DisputeStatus) (note : String) : CaseCall Unit :=
  transitionStatusForStaff disputeKind inputs actorId disputeId newStatus note

def transitionSupportTicketStatusForStaff (inputs : LockInputs) (actorId ticketId : ℤ)
    (newStatus : TicketStatus) (note : String) : CaseCall Unit :=
  transitionStatusForStaff ticketKind inputs actorId ticketId newStatus note

/-! ### Requests -/

/-- What the staff and the administrators do to customers and their records. -/
inductive PrivilegedOp
  | freeze (targetUserId : ℤ)
  | unfreeze (targetUserId : ℤ)
  | requestUnlock (targetUserId : ℤ)
  /-- The execution of an unlock, a recovery or its completion. -/
  | approve (requestId : ℤ)
  | recoveryTransition (recoveryId : ℤ) (status : PyStr)
  | recoveryComplete (recoveryId : ℤ)
  | disputeStatus (disputeId : ℤ) (newStatus : DisputeStatus) (note : String)
  | ticketStatus (ticketId : ℤ) (newStatus : TicketStatus) (note : String)

def PrivilegedOp.call (cfg : CaseConfig) (inputs : LockInputs) (actorId : ℤ) :
    PrivilegedOp → CaseCall Unit
  | .freeze targetId => onLocks (freezeCustomerAsStaff cfg.toLockConfig inputs actorId targetId)
  | .unfreeze targetId => onLocks (unfreezeCustomerAsStaff cfg.toLockConfig inputs actorId targetId)
  | .requestUnlock targetId =>
      onLocks (discard (requestCustomerSecurityUnlock cfg.toLockConfig inputs actorId targetId))
  | .approve requestId => approveRequest cfg inputs actorId requestId
  | .recoveryTransition recoveryId status =>
      transitionManualRecoveryRequestAsAdmin cfg inputs actorId recoveryId status
  | .recoveryComplete recoveryId =>
      completeManualRecoveryRequestAsAdmin cfg inputs actorId recoveryId
  | .disputeStatus disputeId newStatus note =>
      transitionDisputeStatusForStaff inputs actorId disputeId newStatus note
  | .ticketStatus ticketId newStatus note =>
      transitionSupportTicketStatusForStaff inputs actorId ticketId newStatus note

inductive CaseOp
  | privileged (inputs : LockInputs) (actorId : ℤ) (op : PrivilegedOp)
  | submitRecovery (inputs : LockInputs) (submission : RecoverySubmission)
  /-- The command `expire-manual-recovery-requests`. -/
  | expireRecoveries (inputs : LockInputs) (limit : Option ℤ)
  /-- A customer files a dispute or a ticket. -/
  | fileDispute (dispute : TransactionDispute)
  | fileTicket (userId : ℤ)
  /-- Any other request over accounts, and the passing of time. -/
  | account (op : LockOp)

def CaseOp.call (cfg : CaseConfig) : CaseOp → CaseCall Unit
  | .privileged inputs actorId op => op.call cfg inputs actorId
  | .submitRecovery inputs submission => requestManualRecovery cfg inputs submission
  -- the command has no browser session that would commit what it leaves
  | .expireRecoveries inputs limit =>
      expireManualRecoveryRequests { inputs with leftoversCommitted := false } none limit
  | .fileDispute dispute => modify fun w => { w with disputes := w.disputes ++ [dispute] }
  | .fileTicket userId => modify (addTicket userId)
  | .account (.approve inputs actorId requestId) => approveRequest cfg inputs actorId requestId
  | .account op => onLocks (op.call cfg.toLockConfig)

end SitBank.Admin
