import SitBank.Audit.Chain
import SitBank.Python.Dict

/-!
Requests for administrative actions (`app/admin/services.py`): what is stored when a
request is made, what is signed, and what the executor reads.

The signature covers a view of the payload (`safeAdminActionPayload`): keys lose the
blanks around them, values their blanks and their case, everything else is left out.
The executor reads the payload itself.
-/

namespace SitBank.Admin

open SitBank.Python SitBank.Audit

/-! ### Operations -/

/-- The keys of `STAFF_ACTION_OPERATION_TYPES`. -/
inductive StaffAction
  | deactivate
  | reactivate
  | resetActivation
  deriving DecidableEq, Repr

def StaffAction.text : StaffAction → String
  | .deactivate => "deactivate"
  | .reactivate => "reactivate"
  | .resetActivation => "reset_activation"

def StaffAction.operationType : StaffAction → String
  | .deactivate => "staff_deactivate"
  | .reactivate => "staff_reactivate"
  | .resetActivation => "staff_reset_activation"

/-- The keys of `MANUAL_RECOVERY_STATUS_OPERATION_TYPES`. -/
inductive RecoveryDecision
  | approved
  | denied
  deriving DecidableEq, Repr

def RecoveryDecision.text : RecoveryDecision → String
  | .approved => "approved"
  | .denied => "denied"

def RecoveryDecision.operationType : RecoveryDecision → String
  | .approved => "manual_recovery_approve"
  | .denied => "manual_recovery_deny"

/-- The reasons that the code writes to `users.security_lock_reason`. -/
inductive LockReason
  | passwordFailedAttempts
  | mfaFailedAttempts
  | passwordChangeFailedAttempts
  | staffFraudFreeze
  deriving DecidableEq, Repr

def LockReason.text : LockReason → String
  | .passwordFailedAttempts => "password_failed_attempts"
  | .mfaFailedAttempts => "mfa_failed_attempts"
  | .passwordChangeFailedAttempts => "password_change_failed_attempts"
  | .staffFraudFreeze => "staff_fraud_freeze"

/-- `utc_iso`: the offset is written out. -/
def isoOffset (instant : ℤ) : String := isoFormat instant ++ "+00:00"

def lockedAtText (lockedAt : Option ℤ) : String :=
  match lockedAt with
  | none => ""
  | some instant => isoOffset instant

/-- `str(target.security_lock_reason)`. -/
def lockReasonText (lockReason : Option LockReason) : String :=
  match lockReason with
  | none => "None"
  | some reason => reason.text

/-- What root administrators can ask for. -/
inductive AdminOperation
  | staff (action : StaffAction)
  | recovery (decision : RecoveryDecision)
  | recoveryComplete
  | securityUnlock (lockReason : Option LockReason) (lockedAt : Option ℤ)
  deriving DecidableEq, Repr

def AdminOperation.operationType : AdminOperation → String
  | .staff action => action.operationType
  | .recovery decision => decision.operationType
  | .recoveryComplete => "manual_recovery_complete"
  | .securityUnlock .. => "customer_security_unlock"

def AdminOperation.targetType : AdminOperation → String
  | .staff _ => "staff_user"
  | .recovery _ => "manual_recovery_request"
  | .recoveryComplete => "manual_recovery_request"
  | .securityUnlock .. => "customer_user"

def actionKey : PyStr := .ofString "action"

def statusKey : PyStr := .ofString "status"

def lockReasonKey : PyStr := .ofString "lock_reason"

def lockedAtKey : PyStr := .ofString "locked_at"

def AdminOperation.payload : AdminOperation → List (PyStr × Json)
  | .staff action => [(actionKey, textField action.text)]
  | .recovery decision => [(statusKey, textField decision.text)]
  | .recoveryComplete => [(actionKey, textField "complete")]
  | .securityUnlock lockReason lockedAt =>
      [(actionKey, textField "unlock"), (lockReasonKey, textField (lockReasonText lockReason)),
        (lockedAtKey, textField (lockedAtText lockedAt))]

/-! ### Payloads -/

def safePayloadKeys : List PyStr := [actionKey, statusKey, lockReasonKey, lockedAtKey]

/-- `str(value or "")`. -/
def valueText (ops : TextOps) (value : Json) : PyStr :=
  ops.str (if truthy value then value else .str [])

/-- `text.strip().casefold()`. -/
def normalText (ops : TextOps) (text : PyStr) : PyStr := ops.casefold text.strip

/-- One turn of the loop of `_safe_admin_action_payload`. -/
def safeEntry (ops : TextOps) (safe : List (PyStr × PyStr)) (entry : PyStr × Json) :
    List (PyStr × PyStr) :=
  if entry.1.strip ∈ safePayloadKeys then
    if normalText ops (valueText ops entry.2) = [] then safe
    else dictSet entry.1.strip (normalText ops (valueText ops entry.2)) safe
  else safe

def safeAdminActionPayload (ops : TextOps) (payload : List (PyStr × Json)) : List (PyStr × PyStr) :=
  payload.foldl (safeEntry ops) []

/-! ### Requests -/

inductive ActionStatus
  | pending
  | executed
  | rejected
  | cancelled
  | expired
  | executionFailed
  deriving DecidableEq, Repr

structure AdminActionRequest where
  id : ℤ
  operationType : String
  targetType : String
  targetId : String
  /-- A JSON object; the order of its keys is kept. -/
  operationPayload : List (PyStr × Json)
  requesterId : ℤ
  requesterRole : String
  approverId : Option ℤ
  status : ActionStatus
  reasonPresent : Bool
  reasonLength : ℕ
  metadataHmac : String
  createdAt : ℤ
  expiresAt : ℤ

structure ActionConfig extends TextOps where
  /-- `active_hmac_hex(message, length=64)`. -/
  activeHmacHex : List Char → String

/-- The dictionary of `_admin_action_request_hmac`. -/
def hmacFields (ops : TextOps) (r : AdminActionRequest) : List (PyStr × Json) :=
  [(.ofString "id", .int r.id),
    (.ofString "operation_type", textField r.operationType),
    (.ofString "target_type", textField r.targetType),
    (.ofString "target_id", textField r.targetId),
    (.ofString "operation_payload",
      .obj (strPairs (safeAdminActionPayload ops r.operationPayload))),
    (.ofString "requester_id", .int r.requesterId),
    (.ofString "requester_role", textField r.requesterRole),
    (.ofString "reason_present", .bool r.reasonPresent),
    (.ofString "reason_length", .int r.reasonLength),
    (.ofString "created_at", textField (isoOffset r.createdAt)),
    (.ofString "expires_at", textField (isoOffset r.expiresAt))]

/-- What is signed. -/
def hmacMessage (ops : TextOps) (r : AdminActionRequest) : List Char :=
  "admin-action-request:".toList ++ dumps (sortKeys (.obj (hmacFields ops r)))

def adminActionRequestHmac (cfg : ActionConfig) (r : AdminActionRequest) : String :=
  cfg.activeHmacHex (hmacMessage cfg.toTextOps r)

/-- `_assert_admin_action_request_hmac_valid` lets the request pass. -/
def hmacValid (cfg : ActionConfig) (r : AdminActionRequest) : Bool :=
  r.metadataHmac = adminActionRequestHmac cfg r

/-- `str(id)`. -/
def idText (id : ℤ) : String := String.ofList (dumpsInt id)

/-- In microseconds. -/
def adminActionRequestTtl : ℤ := 24 * 60 * 60 * 1000000

/-- What the caller of `_create_admin_action_request` passes, and what it reads from
its surroundings. -/
structure NewRequest where
  operation : AdminOperation
  targetId : ℤ
  id : ℤ
  requesterId : ℤ
  requesterRole : String
  reason : String
  now : ℤ

/-- The row before it is signed. -/
def NewRequest.unsigned (ops : TextOps) (n : NewRequest) : AdminActionRequest where
  id := n.id
  operationType := n.operation.operationType
  targetType := n.operation.targetType
  targetId := idText n.targetId
  operationPayload := strPairs (safeAdminActionPayload ops n.operation.payload)
  requesterId := n.requesterId
  requesterRole := n.requesterRole
  approverId := none
  status := .pending
  reasonPresent := !(strip n.reason.toList).isEmpty
  reasonLength := (strip n.reason.toList).length
  metadataHmac := "pending"
  createdAt := n.now
  expiresAt := n.now + adminActionRequestTtl

def createAdminActionRequest (cfg : ActionConfig) (n : NewRequest) : AdminActionRequest :=
  { n.unsigned cfg.toTextOps with
    metadataHmac := adminActionRequestHmac cfg (n.unsigned cfg.toTextOps) }

/-! ### The executor -/

/-- What the executor is told to do: the operation, its target and its parameters
after the executor's own treatment of them. -/
inductive ExecutorCall
  /-- `_execute_staff_account_lifecycle`, with the normalised action. -/
  | staffAccountLifecycle (targetId : String) (action : PyStr)
  /-- `transition_manual_recovery_request`, with the normalised status. -/
  | transitionManualRecovery (targetId : String) (status : PyStr)
  | completeManualRecovery (targetId : String)
  /-- `_execute_customer_security_unlock_admin_action_request`: the lock that is
  expected to be in force. -/
  | customerSecurityUnlock (targetId : String) (lockReason lockedAt : PyStr)
  | cannotBeExecuted
  deriving DecidableEq, Repr

/-- `str((request.operation_payload or {}).get(key) or "")`. -/
def payloadText (ops : TextOps) (r : AdminActionRequest) (key : PyStr) : PyStr :=
  match r.operationPayload.lookup key with
  | none => ops.str (.str [])
  | some value => valueText ops value

/-- What an operation type makes the executor do. -/
inductive OperationKind
  | staffLifecycle
  | recoveryTransition
  | recoveryComplete
  | securityUnlock
  | unknown
  deriving DecidableEq, Repr

/-- The dispatch of `_execute_admin_action_request`. -/
def operationKind (operationType : String) : OperationKind :=
  if operationType ∈ ["staff_deactivate", "staff_reactivate", "staff_reset_activation"] then
    .staffLifecycle
  else if operationType ∈ ["manual_recovery_approve", "manual_recovery_deny"] then
    .recoveryTransition
  else if operationType = "manual_recovery_complete" then .recoveryComplete
  else if operationType = "customer_security_unlock" then .securityUnlock
  else .unknown

def executeAdminActionRequest (ops : TextOps) (r : AdminActionRequest) : ExecutorCall :=
  match operationKind r.operationType with
  | .staffLifecycle =>
      .staffAccountLifecycle r.targetId (normalText ops (payloadText ops r actionKey))
  | .recoveryTransition =>
      .transitionManualRecovery r.targetId (normalText ops (payloadText ops r statusKey))
  | .recoveryComplete => .completeManualRecovery r.targetId
  | .securityUnlock =>
      .customerSecurityUnlock r.targetId (payloadText ops r lockReasonKey)
        (payloadText ops r lockedAtKey)
  | .unknown => .cannotBeExecuted

end SitBank.Admin
