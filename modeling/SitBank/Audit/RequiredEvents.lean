import SitBank.Admin.Cases
import SitBank.Admin.InviteStarts

/-!
Operations that record what they change with required audit events (`audit_event_required` in
`app/security/audit.py`).

Such an event is flushed into the transaction of its caller and never ends it, so that the
changes before it are committed together with it. If it cannot be written, the caller has to
roll back. A failed flush does so itself, and a failed statement aborts the transaction on
PostgreSQL; when computing the hash fails, the changes stay pending. At the end of the request
the browser session is saved, which commits what is still pending.

A change is named by what it is a change of. Each operation begins with its first change, after
its checks; which changes and commits follow depends on the rows that it finds.
-/

namespace SitBank.Audit.Required

open SitBank.Admin (AdminActionRequest CaseConfig CaseWorld FailureScope InviteWorld LockUser
  StaffAction)
open SitBank.Interaction

/-! ### Changes of a request -/

inductive Change
  | passwordHash
  | passwordHistory
  | mfaState
  | recoveryCode
  | accountStatus
  | invite
  | setupUser
  | recoveryRequest
  | actionRequest
  /-- The request is marked as one that could not be executed. -/
  | executionFailure
  deriving DecidableEq, Repr

/-- Where the writing of an audit event fails. -/
inductive FailPoint
  | lock (aborts : Bool)
  | hash
  | flush
  deriving DecidableEq, Repr

/-- The transaction is lost. -/
def FailPoint.ends : FailPoint → Bool
  | .lock aborts => aborts
  | .hash => false
  | .flush => true

structure Books where
  made : List Change
  pending : List Change
  committed : List Change
  /-- The changes that were made before an audit event that has failed. -/
  unrecorded : List Change
  /-- The transaction can be committed. -/
  usable : Bool
  deriving DecidableEq, Repr

namespace Books

def empty : Books := ⟨[], [], [], [], true⟩

def change (cs : List Change) (b : Books) : Books :=
  { b with made := b.made ++ cs, pending := b.pending ++ cs }

def commit (b : Books) : Books := { b with committed := b.committed ++ b.pending, pending := [] }

def commitIf (c : Bool) (b : Books) : Books := if c then b.commit else b

def rollback (b : Books) : Books := { b with pending := [], usable := true }

def fail (p : FailPoint) (b : Books) : Books :=
  { b with unrecorded := b.unrecorded ++ b.made, usable := b.usable && !p.ends }

/-- The session is saved; without it, the transaction is dropped. -/
def endRequest (saved : Bool) (b : Books) : Books :=
  if b.usable && saved then b.commit else b.rollback

end Books

inductive Fault
  | auditWriteError
  | databaseError
  | authError
  deriving DecidableEq, Repr

abbrev BooksCall := Call Books Fault Unit

def change (cs : List Change) : BooksCall := modify (Books.change cs)

def commit : BooksCall := do
  let b ← get
  if b.usable then set b.commit else throw .databaseError

def commitIf (c : Bool) : BooksCall := if c then commit else pure ()

def auditEvent (written : Bool) : BooksCall :=
  modify fun b => if b.usable && written then b.commit else b.rollback

/-- The event of a required audit write is pending like the changes; only its failure is
described. -/
def auditEventRequired : Option FailPoint → BooksCall
  | none => pure ()
  | some p => do
      modify (Books.fail p)
      throw .auditWriteError

def auditEventsRequired : List (Option FailPoint) → BooksCall
  | [] => pure ()
  | a :: audits => do
      auditEventRequired a
      auditEventsRequired audits

/-- Changes, a helper that may commit, the audit events, and the commit. -/
def recorded (cs : List Change) (committing : Bool) (audits : List (Option FailPoint)) :
    BooksCall := do
  change cs
  commitIf committing
  auditEventsRequired audits
  commit

/-! ### What an operation finds -/

structure Found where
  cases : CaseWorld
  invites : InviteWorld
  /-- The counters of `password_reset_recovery_code`, by the id of the transaction. -/
  resetCounters : String → Option Admin.AuthAttemptCounter
  /-- `workplace_email_verified_at` of an account is set. -/
  workplaceVerified : ℤ → Bool

namespace Found

variable (found : Found)

/-- `_clear_user_security_failures` deletes a counter and commits. -/
def hasFailures (userId : ℤ) (scope : FailureScope) : Bool :=
  (found.cases.counters userId scope).isSome

/-- `clear_failures` deletes a counter and commits; one that is past its window it only deletes. -/
def hasResetFailures (transactionId : String) : Bool :=
  (found.resetCounters transactionId).any fun counter =>
    found.cases.clock < counter.windowExpiresAt

/-- The account that the invite has set up. -/
def setupUser (inviteId : ℕ) : Option Admin.StaffUser :=
  (found.invites.invites.find? fun i => i.id = inviteId).bind fun invite =>
    Admin.setupUser invite found.invites

end Found

/-! ### Customers -/

def changePassword (audit : Option FailPoint) : BooksCall :=
  recorded [.passwordHistory, .passwordHash] false [audit]

def verifyMfaSetup (audit : Option FailPoint) : BooksCall :=
  recorded [.mfaState, .recoveryCode] false [audit]

def verifyMfaReplacement (audit : Option FailPoint) : BooksCall :=
  recorded [.mfaState, .recoveryCode] false [audit]

def completePasswordReset (audit : Option FailPoint) : BooksCall :=
  recorded [.passwordHistory, .passwordHash] false [audit]

/-- A recovery code at login. -/
def verifyPendingLoginRecoveryCode (found : Found) (userId : ℤ) (audit : Option FailPoint) :
    BooksCall :=
  recorded [.recoveryCode] (found.hasFailures userId .mfa) [audit]

/-- A recovery code for a password reset. -/
def verifyResetRecoveryCode (found : Found) (transactionId : String) (audit : Option FailPoint) :
    BooksCall :=
  recorded [.recoveryCode] (found.hasResetFailures transactionId) [audit]

/-! ### Staff -/

def changeOwnPassword (found : Found) (actorId : ℤ) (audit : Option FailPoint) : BooksCall :=
  recorded [.passwordHistory, .passwordHash] (found.hasFailures actorId .passwordChange) [audit]

def confirmOwnMfaChange (audit : Option FailPoint) : BooksCall :=
  recorded [.mfaState] false [audit]

def createStaffInvite (audit : Option FailPoint) : BooksCall := recorded [.invite] false [audit]

def resendStaffSetupInvite (audit : Option FailPoint) : BooksCall :=
  recorded [.invite] false [audit]

def revokeStaffInvite (audit : Option FailPoint) : BooksCall := recorded [.invite] false [audit]

/-- `_reset_active_invite_acceptance_for_root_action`: the account that the invite has set up is
deleted. -/
def resetChanges (found : Found) (inviteId : ℕ) : List Change :=
  if (found.setupUser inviteId).isSome then [.setupUser, .invite] else [.invite]

/-- The email is sent. -/
def reissueStaffInvite (found : Found) (inviteId : ℕ) (audit : Option FailPoint)
    (written : Bool) : BooksCall := do
  change (resetChanges found inviteId)
  auditEventsRequired [audit]
  auditEvent written
  commit

def resetStaffInviteAcceptance (found : Found) (inviteId : ℕ) (audit : Option FailPoint) :
    BooksCall :=
  recorded (resetChanges found inviteId) false [audit]

/-- TOTP setup, workplace verification and activation have an event each. -/
def verifyInviteAcceptance (audits : Option FailPoint × Option FailPoint × Option FailPoint) :
    BooksCall :=
  recorded [.mfaState, .accountStatus, .invite] false [audits.1, audits.2.1, audits.2.2]

/-! ### Admin action requests -/

def createAdminActionRequest (audit : Option FailPoint) : BooksCall :=
  recorded [.actionRequest] false [audit]

def rejectAdminActionRequest (audit : Option FailPoint) : BooksCall :=
  recorded [.actionRequest] false [audit]

def cancelAdminActionRequest (audit : Option FailPoint) : BooksCall :=
  recorded [.actionRequest] false [audit]

def expireAdminActionRequestIfStale (audit : Option FailPoint) : BooksCall :=
  recorded [.actionRequest] false [audit]

/-- Each stale request is changed and recorded before the next one. -/
def expireAll : List (Option FailPoint) → BooksCall
  | [] => pure ()
  | a :: audits => do
      change [.actionRequest]
      auditEventRequired a
      expireAll audits

def expireStaleAdminActionRequests (audits : List (Option FailPoint)) : BooksCall := do
  expireAll audits
  commitIf (!audits.isEmpty)

/-- What an approved request does. -/
inductive Execution
  /-- The MFA state is changed too when an account is set up again. -/
  | staffAccountLifecycle (resets : Bool) (audit : Option FailPoint)
  /-- Nothing is done if the manual recovery has the status already. -/
  | manualRecoveryTransition (differs : Bool) (audit : Option FailPoint) (written : Bool)
  | manualRecoveryComplete (audit : Option FailPoint) (written : Bool)
  /-- The manual recovery has expired, which is recorded and refused. -/
  | manualRecoveryExpired (audit : Option FailPoint)
  | customerSecurityUnlock (audit : Option FailPoint)
  | refused

def Execution.changes : Execution → List Change
  | .staffAccountLifecycle resets _ =>
      if resets then [.accountStatus, .mfaState] else [.accountStatus]
  | .manualRecoveryTransition differs _ _ => if differs then [.recoveryRequest] else []
  | .manualRecoveryComplete _ _ => [.mfaState, .recoveryRequest]
  | .manualRecoveryExpired _ => [.recoveryRequest]
  | .customerSecurityUnlock _ => [.accountStatus]
  | .refused => []

/-- The audit write of the execution fails. -/
def Execution.failure : Execution → Option FailPoint
  | .staffAccountLifecycle _ audit => audit
  | .manualRecoveryTransition differs audit _ => if differs then audit else none
  | .manualRecoveryComplete audit _ => audit
  | .manualRecoveryExpired audit => audit
  | .customerSecurityUnlock audit => audit
  | .refused => none

/-- Manual recoveries are committed before the request is. -/
def Execution.commits : Execution → Bool
  | .staffAccountLifecycle _ _ => false
  | .manualRecoveryTransition differs _ _ => differs
  | .manualRecoveryComplete _ _ => true
  | .manualRecoveryExpired _ => true
  | .customerSecurityUnlock _ => false
  | .refused => false

/-- It ends with an `AuthError`, which is a `ValueError`. -/
def Execution.refuses : Execution → Bool
  | .manualRecoveryExpired _ => true
  | .refused => true
  | _ => false

section Executions

variable (cfg : CaseConfig) (found : Found) (actor : LockUser) (r : AdminActionRequest)
  (audit : Option FailPoint) (written : Bool)

/-- The account with the id of the request's target. -/
def targetUser : Option LockUser :=
  found.cases.users.find? fun u => Admin.idText u.id = r.targetId

/-- The action in the payload, where `_validate_staff_account_lifecycle_request` accepts it. -/
def lifecycleAction : Option StaffAction :=
  [StaffAction.deactivate, .reactivate, .resetActivation].find? fun action =>
    Python.PyStr.ofString action.text = Admin.normalText cfg.toTextOps
      (Admin.payloadText cfg.toTextOps r Admin.actionKey)

/-- The target is an account of the staff, and another one than the actor's. -/
def manageable (target : LockUser) : Bool :=
  target.id ≠ actor.id && (target.accountType = .staff || target.accountType = .admin)

def staffAccountLifecycle : Execution :=
  match lifecycleAction cfg r, (targetUser found r).filter (manageable actor) with
  | some action, some target =>
      if !Admin.isRootAdmin cfg actor then .refused
      else if action = .reactivate && !(target.mfaEnabled && found.workplaceVerified target.id) then
        .refused
      else .staffAccountLifecycle (action = .resetActivation) audit
  | _, _ => .refused

/-- `_assert_not_self_manual_recovery_action` refuses. -/
def selfRecovery (x : Admin.ManualRecoveryRequest) : Bool :=
  (Admin.recoveryOwner found.cases x).any
    (Admin.selfCustomerAction cfg.toLockConfig found.cases.toLockWorld actor)

def manualRecoveryTransition : Execution :=
  match Admin.recoveryTarget r found.cases with
  | none => .refused
  | some x =>
      if selfRecovery cfg found actor x then .refused
      else if Admin.isStaleRecovery found.cases.clock x then .manualRecoveryExpired audit
      else match Admin.recoveryStatusOf (Admin.normalText cfg.toTextOps
          (Admin.payloadText cfg.toTextOps r Admin.statusKey)) with
        | none => .refused
        | some status =>
            if status = x.status then .manualRecoveryTransition false audit written
            else if (Admin.manualRecoveryAllowedTransitions x.status).contains status then
              .manualRecoveryTransition true audit written
            else .refused

def manualRecoveryComplete : Execution :=
  match Admin.recoveryTarget r found.cases with
  | none => .refused
  | some x =>
      if selfRecovery cfg found actor x then .refused
      else if Admin.isStaleRecovery found.cases.clock x then .manualRecoveryExpired audit
      else if x.status ≠ .approved then .refused
      else match Admin.recoveryOwner found.cases x with
        | none => .refused
        | some user =>
            if Admin.isAdminLikeUser cfg user || Admin.accountResetBlocked user then .refused
            else .manualRecoveryComplete audit written

def customerSecurityUnlock : Execution :=
  match (targetUser found r).filter Admin.isLockedCustomer with
  | none => .refused
  | some target =>
      if Admin.selfCustomerAction cfg.toLockConfig found.cases.toLockWorld actor target then
        .refused
      else if Admin.currentLockTexts cfg.toTextOps target ≠
          (Admin.payloadText cfg.toTextOps r Admin.lockReasonKey,
            Admin.payloadText cfg.toTextOps r Admin.lockedAtKey) then .refused
      else .customerSecurityUnlock audit

/-- What the approval of the request by the actor executes. `audit` is the outcome of the
required event, `written` that of the event after it. -/
def executionOf : Execution :=
  match Admin.operationKind r.operationType with
  | .staffLifecycle => staffAccountLifecycle cfg found actor r audit
  | .recoveryTransition => manualRecoveryTransition cfg found actor r audit written
  | .recoveryComplete => manualRecoveryComplete cfg found actor r audit written
  | .securityUnlock => customerSecurityUnlock cfg found actor r audit
  | .unknown => .refused

end Executions

def recordedIf (c : Bool) (cs : List Change) (audit : Option FailPoint) : BooksCall :=
  if c then recorded cs false [audit] else pure ()

def executeAdminActionRequest (e : Execution) : BooksCall :=
  match e with
  | .staffAccountLifecycle _ audit => do
      change e.changes
      auditEventRequired audit
  | .manualRecoveryTransition differs audit written => do
      recordedIf differs e.changes audit
      auditEvent written
  | .manualRecoveryComplete audit written => do
      recorded e.changes false [audit]
      auditEvent written
  | .manualRecoveryExpired audit => do
      recorded e.changes false [audit]
      throw .authError
  | .customerSecurityUnlock audit => do
      change e.changes
      auditEventRequired audit
  | .refused => throw .authError

/-- `_mark_admin_action_request_execution_failed`, after a rollback. -/
def failExecution (marked : Option FailPoint) : BooksCall := do
  modify Books.rollback
  recorded [.executionFailure] false [marked]
  throw .authError

/-- An `AuditWriteError` of the execution is a `RuntimeError`, and caught too. -/
def approveAdminActionRequest (e : Execution) (marked executed : Option FailPoint) :
    BooksCall := do
  tryCatch (executeAdminActionRequest e) fun _ => failExecution marked
  recorded [.actionRequest] false [executed]

/-! ### When changes stay unrecorded -/

/-- No change is committed that was made before an audit event that has failed. -/
def Kept (saved : Bool) (b : Books) : Prop :=
  ∀ c ∈ b.unrecorded, c ∉ (b.endRequest saved).committed

def Recorded (saved : Bool) (m : BooksCall) : Prop := Ends m (fun _ b => Kept saved b) .empty

/-- The pending changes are lost, at the failure or at the end of the request. -/
def Lost (saved : Bool) (p : FailPoint) : Prop := p.ends = true ∨ saved = false

/-- The first audit write that fails. -/
def firstFailure : List (Option FailPoint) → Option FailPoint
  | [] => none
  | none :: audits => firstFailure audits
  | some p :: _ => some p

section Books

variable {saved : Bool} {b : Books} {p : FailPoint}

theorem committed_endRequest_fail (hb : b.usable = true) :
    ((b.fail p).endRequest saved).committed =
      if p.ends || !saved then b.committed else b.committed ++ b.pending := by
  unfold Books.endRequest Books.fail
  dsimp only
  rw [hb]
  cases p.ends <;> cases saved <;> rfl

theorem kept_fail_iff (hb : b.usable = true) (hmade : ∀ c ∈ b.committed ++ b.pending, c ∈ b.made) :
    Kept saved (b.fail p) ↔ b.committed = [] ∧ (b.pending = [] ∨ Lost saved p) := by
  unfold Kept Lost
  rw [committed_endRequest_fail hb]
  have hfail (c : Change) (hc : c ∈ b.committed ++ b.pending) : c ∈ (b.fail p).unrecorded :=
    List.mem_append_right b.unrecorded (hmade c hc)
  constructor
  · intro h
    -- a change that no event records must not be among those committed
    have hnone (l : List Change) (hsub : ∀ c ∈ l, c ∈ b.committed ++ b.pending)
        (hl : ∀ c ∈ l, c ∈ if p.ends || !saved then b.committed else b.committed ++ b.pending) :
        l = [] :=
      List.eq_nil_iff_forall_not_mem.mpr fun c hc => h c (hfail c (hsub c hc)) (hl c hc)
    constructor
    · apply hnone _ fun c hc => List.mem_append_left b.pending hc
      intro c hc
      split
      · exact hc
      · exact List.mem_append_left b.pending hc
    · cases hends : p.ends with
      | true => exact .inr (.inl rfl)
      | false =>
      cases saved with
      | false => exact .inr (.inr rfl)
      | true =>
          apply Or.inl
          apply hnone _ fun c hc => List.mem_append_right b.committed hc
          intro c hc
          rw [hends]
          exact List.mem_append_right b.committed hc
  · rintro ⟨hcommitted, hlost⟩ c - hc
    rw [hcommitted] at hc
    have hempty : (if p.ends || !saved then [] else [] ++ b.pending) = [] := by
      rcases hlost with hpending | hends | hsaved
      · rw [hpending]
        split <;> rfl
      · rw [hends]
        rfl
      · rw [hsaved]
        cases p.ends <;> rfl
    rw [hempty] at hc
    exact List.not_mem_nil hc

theorem kept_of_recorded (h : b.unrecorded = []) : Kept saved b := by
  intro c hc
  rw [h] at hc
  exact absurd hc List.not_mem_nil

theorem auditEventsRequired_eq (audits : List (Option FailPoint)) (b : Books) :
    auditEventsRequired audits b = match firstFailure audits with
      | none => .ok () b
      | some p => .error .auditWriteError (b.fail p) := by
  induction audits with
  | nil => rfl
  | cons a audits ih =>
      cases a with
      | none => exact ih
      | some p => rfl

theorem recorded_eq (hb : b.usable = true) (cs : List Change) (committing : Bool)
    (audits : List (Option FailPoint)) :
    recorded cs committing audits b = match firstFailure audits with
      | none => .ok () ((b.change cs).commitIf committing).commit
      | some p => .error .auditWriteError (((b.change cs).commitIf committing).fail p) := by
  obtain ⟨made, pending, committed, unrecorded, usable⟩ := b
  cases hb
  have hevents := auditEventsRequired_eq audits
    ((Books.change cs ⟨made, pending, committed, unrecorded, true⟩).commitIf committing)
  have hrun : recorded cs committing audits ⟨made, pending, committed, unrecorded, true⟩ =
      (auditEventsRequired audits >>= fun _ => commit)
        ((Books.change cs ⟨made, pending, committed, unrecorded, true⟩).commitIf committing) := by
    cases committing <;> rfl
  rw [hrun]
  show EStateM.bind _ _ _ = _
  unfold EStateM.bind
  rw [hevents]
  cases firstFailure audits with
  | none => cases committing <;> rfl
  | some p => rfl

/-- An operation with one commit at its end, and perhaps one before its audit events. -/
theorem recorded_iff {cs : List Change} (hcs : cs ≠ []) (committing : Bool)
    (audits : List (Option FailPoint)) :
    Recorded saved (recorded cs committing audits) ↔
      ∀ p ∈ firstFailure audits, committing = false ∧ Lost saved p := by
  unfold Recorded Ends
  rw [recorded_eq rfl]
  cases firstFailure audits with
  | none =>
      refine iff_of_true (kept_of_recorded ?_) nofun
      cases committing <;> rfl
  | some p =>
      have hmade : ∀ c ∈ ((Books.empty.change cs).commitIf committing).committed ++
          ((Books.empty.change cs).commitIf committing).pending,
          c ∈ ((Books.empty.change cs).commitIf committing).made := by
        cases committing <;> simp [Books.commitIf, Books.commit, Books.change, Books.empty]
      have husable : ((Books.empty.change cs).commitIf committing).usable = true := by
        cases committing <;> rfl
      dsimp only
      rw [kept_fail_iff husable hmade]
      cases committing <;>
        simp [Books.commitIf, Books.commit, Books.change, Books.empty, hcs]

/-- Nothing is committed yet, and what has been made is pending. -/
structure Fresh (b : Books) : Prop where
  usable : b.usable = true
  pending : b.pending = b.made
  committed : b.committed = []
  unrecorded : b.unrecorded = []

theorem Fresh.change (h : Fresh b) (cs : List Change) : Fresh (b.change cs) where
  usable := h.usable
  pending := congrArg (· ++ cs) h.pending
  committed := h.committed
  unrecorded := h.unrecorded

theorem Fresh.kept_fail_iff (h : Fresh b) (hpending : b.pending ≠ []) :
    Kept saved (b.fail p) ↔ Lost saved p := by
  rw [Required.kept_fail_iff h.usable (by simp [h.committed, h.pending]), h.committed]
  simp [hpending]

theorem fresh_empty : Fresh .empty := ⟨rfl, rfl, rfl, rfl⟩

theorem resetChanges_ne (found : Found) (inviteId : ℕ) : resetChanges found inviteId ≠ [] := by
  unfold resetChanges
  cases (found.setupUser inviteId).isSome <;> decide

theorem reissue_iff (found : Found) (inviteId : ℕ) (audit : Option FailPoint) (written : Bool) :
    Recorded saved (reissueStaffInvite found inviteId audit written) ↔
      ∀ p ∈ audit, Lost saved p := by
  cases audit with
  | none =>
      refine iff_of_true ?_ nofun
      cases written <;> exact kept_of_recorded rfl
  | some p =>
      have hpending : (Books.empty.change (resetChanges found inviteId)).pending ≠ [] :=
        resetChanges_ne found inviteId
      show Kept saved ((Books.empty.change (resetChanges found inviteId)).fail p) ↔ _
      rw [(fresh_empty.change _).kept_fail_iff hpending]
      simp

/-! ### Requests that expire -/

/-- Before the first failure, every request that was changed has been recorded. -/
theorem ends_expireAll (audits : List (Option FailPoint)) (hb : Fresh b) :
    Ends (expireAll audits) (fun r b' => match firstFailure audits with
      | none => r = .ok () ∧ Fresh b'
      | some p => ∃ b₁, Fresh b₁ ∧ b₁.pending ≠ [] ∧ r = .error .auditWriteError ∧
          b' = b₁.fail p) b := by
  induction audits generalizing b with
  | nil => exact ⟨rfl, hb⟩
  | cons a audits ih =>
      have hchanged := hb.change [.actionRequest]
      cases a with
      | none => exact ih hchanged
      | some p =>
          refine ⟨_, hchanged, ?_, rfl, rfl⟩
          simp [Books.change]

theorem expireStale_iff (audits : List (Option FailPoint)) :
    Recorded saved (expireStaleAdminActionRequests audits) ↔
      ∀ p ∈ firstFailure audits, Lost saved p := by
  -- the loop stops at the first event that fails
  have hrun := ends_expireAll audits fresh_empty
  unfold Recorded expireStaleAdminActionRequests
  cases hcall : expireAll audits Books.empty with
  | ok u b =>
      unfold Ends at hrun
      rw [hcall] at hrun
      rw [Ends.bind_ok_iff hcall]
      cases hfailure : firstFailure audits with
      | some p =>
          rw [hfailure] at hrun
          obtain ⟨_, _, _, hr, _⟩ := hrun
          cases hr
      | none =>
          rw [hfailure] at hrun
          obtain ⟨made, pending, committed, unrecorded, usable⟩ := b
          obtain ⟨-, husable, -, -, hunrecorded⟩ := hrun
          cases husable
          cases hunrecorded
          refine iff_of_true ?_ nofun
          unfold commitIf
          cases audits.isEmpty <;> exact kept_of_recorded rfl
  | error e b =>
      unfold Ends at hrun
      rw [hcall] at hrun
      rw [Ends.bind_error_iff hcall]
      cases hfailure : firstFailure audits with
      | none =>
          rw [hfailure] at hrun
          cases hrun.1
      | some p =>
          rw [hfailure] at hrun
          obtain ⟨b₁, hfresh, hpending, -, rfl⟩ := hrun
          rw [hfresh.kept_fail_iff hpending]
          simp

/-! ### Approvals -/

/-- The execution, when all its audit writes succeed. -/
def Execution.done (e : Execution) : Books := (Books.empty.change e.changes).commitIf e.commits

theorem executeAdminActionRequest_eq (e : Execution) :
    executeAdminActionRequest e .empty = match e.failure with
      | none => if e.refuses then .error .authError e.done else .ok () e.done
      | some p => .error .auditWriteError ((Books.empty.change e.changes).fail p) := by
  cases e with
  | staffAccountLifecycle resets audit => cases audit <;> rfl
  | manualRecoveryTransition differs audit written =>
      cases differs <;> cases audit <;> cases written <;> rfl
  | manualRecoveryComplete audit written => cases audit <;> cases written <;> rfl
  | manualRecoveryExpired audit => cases audit <;> rfl
  | customerSecurityUnlock audit => cases audit <;> rfl
  | refused => rfl

theorem executionFailure_notMem (e : Execution) : Change.executionFailure ∉ e.changes := by
  cases e with
  | staffAccountLifecycle resets audit => cases resets <;> simp [Execution.changes]
  | manualRecoveryTransition differs audit written => cases differs <;> simp [Execution.changes]
  | manualRecoveryComplete audit written => simp [Execution.changes]
  | manualRecoveryExpired audit => simp [Execution.changes]
  | customerSecurityUnlock audit => simp [Execution.changes]
  | refused => simp [Execution.changes]

theorem commits_changes {e : Execution} (h : e.commits = true) : e.changes ≠ [] := by
  cases e with
  | staffAccountLifecycle resets audit => cases h
  | manualRecoveryTransition differs audit written =>
      cases h
      simp [Execution.changes]
  | manualRecoveryComplete audit written => simp [Execution.changes]
  | manualRecoveryExpired audit => simp [Execution.changes]
  | customerSecurityUnlock audit => cases h
  | refused => cases h

theorem done_usable (e : Execution) : e.done.usable = true := by
  unfold Execution.done
  cases e.commits <;> rfl

theorem done_unrecorded (e : Execution) : e.done.unrecorded = [] := by
  unfold Execution.done
  cases e.commits <;> rfl

theorem done_committed (e : Execution) : e.done.committed = [] ↔ e.commits = false := by
  unfold Execution.done
  cases hcommits : e.commits with
  | false => exact iff_of_true rfl rfl
  | true =>
      have hne := commits_changes hcommits
      simp [Books.commitIf, Books.commit, Books.change, Books.empty, hne]

theorem done_made (e : Execution) : ∀ c ∈ e.done.committed ++ e.done.pending, c ∈ e.done.made := by
  unfold Execution.done
  cases e.commits <;> simp [Books.commitIf, Books.commit, Books.change, Books.empty]

/-- The execution succeeds: its changes and the executed request are recorded last. -/
theorem executed_iff (e : Execution) (executed : Option FailPoint) :
    Ends (recorded [.actionRequest] false [executed]) (fun _ b => Kept saved b) e.done ↔
      ∀ p ∈ executed, e.commits = false ∧ Lost saved p := by
  unfold Ends
  rw [recorded_eq (done_usable e)]
  cases executed with
  | none => exact iff_of_true (kept_of_recorded (done_unrecorded e)) nofun
  | some p =>
      have hmade : ∀ c ∈ (e.done.change [.actionRequest]).committed ++
          (e.done.change [.actionRequest]).pending, c ∈ (e.done.change [.actionRequest]).made := by
        intro c hc
        have happend : (e.done.change [.actionRequest]).committed ++
            (e.done.change [.actionRequest]).pending =
            e.done.committed ++ e.done.pending ++ [.actionRequest] :=
          (List.append_assoc ..).symm
        rw [happend] at hc
        rcases List.mem_append.mp hc with hc | hc
        · exact List.mem_append_left _ (done_made e c hc)
        · exact List.mem_append_right _ hc
      have hpending : (e.done.change [.actionRequest]).pending ≠ [] := by simp [Books.change]
      show Kept saved ((e.done.change [.actionRequest]).fail p) ↔ _
      rw [kept_fail_iff (b := e.done.change [.actionRequest]) (done_usable e) hmade,
        show (e.done.change [.actionRequest]).committed = e.done.committed from rfl, done_committed]
      simp [hpending]

/-- The books when a failed execution is marked as one. -/
def marking (b : Books) : Books := b.rollback.change [.executionFailure]

theorem failExecution_eq (marked : Option FailPoint) (b : Books) :
    failExecution marked b = match marked with
      | none => .error .authError (marking b).commit
      | some p => .error .auditWriteError ((marking b).fail p) := by
  cases marked <;> rfl

theorem kept_marking_iff {p : FailPoint} (hmade : ∀ c ∈ b.committed, c ∈ b.made) :
    Kept saved ((marking b).fail p) ↔ b.committed = [] ∧ Lost saved p := by
  rw [kept_fail_iff (b := marking b) rfl]
  · simp [marking, Books.rollback, Books.change]
  · intro c hc
    rcases List.mem_append.mp hc with hc | hc
    · exact List.mem_append_left _ (hmade c hc)
    · exact List.mem_append_right _ hc

/-- What is to be asked of the audit events of an approval. -/
def ApprovalSafe (saved : Bool) (e : Execution) (marked executed : Option FailPoint) : Prop :=
  match e.failure with
  | some _ => ∀ p ∈ marked, Lost saved p
  | none =>
      if e.refuses then ∀ p ∈ marked, e.commits = false ∧ Lost saved p
      else ∀ p ∈ executed, e.commits = false ∧ Lost saved p

/-- What the handler leaves behind. -/
theorem approve_of_error {e : Execution} {marked executed : Option FailPoint} {fault : Fault}
    (h : executeAdminActionRequest e .empty = .error fault b) :
    Recorded saved (approveAdminActionRequest e marked executed) ↔ match marked with
      | none => Kept saved (marking b).commit
      | some p => Kept saved ((marking b).fail p) := by
  have hmarked := failExecution_eq marked b
  unfold Recorded approveAdminActionRequest
  cases marked with
  | none =>
      have htry : tryCatch (executeAdminActionRequest e) (fun _ => failExecution none) .empty =
          .error .authError (marking b).commit := (tryCatch_error h _).trans hmarked
      rw [Ends.bind_error_iff htry]
  | some p =>
      have htry : tryCatch (executeAdminActionRequest e) (fun _ => failExecution (some p)) .empty =
          .error .auditWriteError ((marking b).fail p) := (tryCatch_error h _).trans hmarked
      rw [Ends.bind_error_iff htry]

theorem approve_iff (e : Execution) (marked executed : Option FailPoint) :
    Recorded saved (approveAdminActionRequest e marked executed) ↔
      ApprovalSafe saved e marked executed := by
  have hexecute := executeAdminActionRequest_eq e
  unfold ApprovalSafe
  cases hfailure : e.failure with
  -- the execution itself fails at one of its required events
  | some p =>
      rw [hfailure] at hexecute
      rw [approve_of_error hexecute]
      cases marked with
      | some q =>
          have hkept := @kept_marking_iff saved ((Books.empty.change e.changes).fail p) q nofun
          simpa [Books.fail, Books.change, Books.empty] using hkept
      | none =>
          refine iff_of_true (fun c hc => ?_) nofun
          have hne : c ≠ .executionFailure := fun heq => executionFailure_notMem e (heq ▸ hc)
          cases saved <;> simp [Books.endRequest, marking, Books.commit, Books.rollback,
            Books.change, Books.fail, Books.empty, hne]
  | none =>
      rw [hfailure] at hexecute
      cases hrefuses : e.refuses with
      -- it is refused with an error of its own, after what it has recorded
      | true =>
          rw [hrefuses] at hexecute
          rw [approve_of_error hexecute]
          cases marked with
          | some q =>
              have hkept := @kept_marking_iff saved e.done q fun c hc =>
                done_made e c (List.mem_append_left _ hc)
              simpa [done_committed] using hkept
          | none => exact iff_of_true (kept_of_recorded (done_unrecorded e)) nofun
      | false =>
          rw [hrefuses] at hexecute
          have htry : tryCatch (executeAdminActionRequest e) (fun _ => failExecution marked)
              .empty = .ok () e.done := tryCatch_ok hexecute _
          unfold Recorded approveAdminActionRequest
          rw [Ends.bind_ok_iff htry]
          exact executed_iff e executed

end Books

/-! ### Starts of an invite's acceptance -/

section Starts

open SitBank.Admin.Starts

variable (i : StartInput) (steps : StartSteps) (rows : Rows)

/-- The start gets to its audit events, and one of them fails. -/
def StartAuditFails : Prop :=
  (match rows.setupUser with
    | none => steps.unused = true ∧ steps.hashed = true ∧ steps.inserted = true
    | some u => u.ready rows.invite = true ∧ steps.hashed = true ∧ steps.pruned = true) ∧
  steps.keyFound = true ∧ steps.refreshed = true ∧ steps.sent = true ∧
    (steps.sentAudit && steps.startedAudit) = false

/-- What the audit event of the encryption has committed is cleared, or is nothing new. -/
def StartSafe : Prop :=
  match rows.setupUser with
  | none =>
      if steps.cryptoAudit then
        steps.cleaned = true ∧ steps.failureAudits.1 = true ∧ rows.invite.cleared = rows.invite
      else steps.cleaned = true → steps.failureAudits.1 = true → rows.invite.cleared = rows.invite
  | some u => steps.cryptoAudit = true → u.rewritten i = u

variable {i steps rows}

theorem start_iff (h : StartAuditFails steps rows) :
    FailureHarmless i steps rows ↔ StartSafe i steps rows := by
  obtain ⟨invite, setupUser⟩ := rows
  obtain ⟨hprepared, hkey, hrefreshed, hsent, haudits⟩ := h
  have hdelivered : steps.delivered = false := by
    unfold StartSteps.delivered
    rw [hsent, Bool.true_and, haudits]
    rfl
  unfold StartSafe
  cases setupUser with
  | none =>
      obtain ⟨hunused, hhashed, hinserted⟩ := hprepared
      rw [failureHarmless_first]
      simp [HarmlessFirst, hunused, hhashed, hinserted, hkey, hrefreshed, hdelivered]
  | some u =>
      obtain ⟨hready, hhashed, hpruned⟩ := hprepared
      rw [failureHarmless_again]
      simp only [HarmlessAgain, hready, hhashed, hpruned, hkey, hrefreshed, hdelivered]
      simp

end Starts

/-! ### All operations -/

inductive Operation
  | changePassword (audit : Option FailPoint)
  | verifyMfaSetup (audit : Option FailPoint)
  | verifyMfaReplacement (audit : Option FailPoint)
  | completePasswordReset (audit : Option FailPoint)
  | verifyPendingLoginRecoveryCode (userId : ℤ) (audit : Option FailPoint)
  | verifyResetRecoveryCode (transactionId : String) (audit : Option FailPoint)
  | changeOwnPassword (actorId : ℤ) (audit : Option FailPoint)
  | confirmOwnMfaChange (audit : Option FailPoint)
  | createStaffInvite (audit : Option FailPoint)
  | resendStaffSetupInvite (audit : Option FailPoint)
  | revokeStaffInvite (audit : Option FailPoint)
  | reissueStaffInvite (inviteId : ℕ) (audit : Option FailPoint) (written : Bool)
  | resetStaffInviteAcceptance (inviteId : ℕ) (audit : Option FailPoint)
  | verifyInviteAcceptance (audits : Option FailPoint × Option FailPoint × Option FailPoint)
  | createAdminActionRequest (audit : Option FailPoint)
  | approveAdminActionRequest (actor : LockUser) (r : AdminActionRequest)
      (audit : Option FailPoint) (written : Bool) (marked executed : Option FailPoint)
  | rejectAdminActionRequest (audit : Option FailPoint)
  | cancelAdminActionRequest (audit : Option FailPoint)
  | expireAdminActionRequestIfStale (audit : Option FailPoint)
  | expireStaleAdminActionRequests (audits : List (Option FailPoint))

def Operation.call (cfg : CaseConfig) (found : Found) : Operation → BooksCall
  | .changePassword audit => Required.changePassword audit
  | .verifyMfaSetup audit => Required.verifyMfaSetup audit
  | .verifyMfaReplacement audit => Required.verifyMfaReplacement audit
  | .completePasswordReset audit => Required.completePasswordReset audit
  | .verifyPendingLoginRecoveryCode userId audit =>
      Required.verifyPendingLoginRecoveryCode found userId audit
  | .verifyResetRecoveryCode transactionId audit =>
      Required.verifyResetRecoveryCode found transactionId audit
  | .changeOwnPassword actorId audit => Required.changeOwnPassword found actorId audit
  | .confirmOwnMfaChange audit => Required.confirmOwnMfaChange audit
  | .createStaffInvite audit => Required.createStaffInvite audit
  | .resendStaffSetupInvite audit => Required.resendStaffSetupInvite audit
  | .revokeStaffInvite audit => Required.revokeStaffInvite audit
  | .reissueStaffInvite inviteId audit written =>
      Required.reissueStaffInvite found inviteId audit written
  | .resetStaffInviteAcceptance inviteId audit =>
      Required.resetStaffInviteAcceptance found inviteId audit
  | .verifyInviteAcceptance audits => Required.verifyInviteAcceptance audits
  | .createAdminActionRequest audit => Required.createAdminActionRequest audit
  | .approveAdminActionRequest actor r audit written marked executed =>
      Required.approveAdminActionRequest (executionOf cfg found actor r audit written)
        marked executed
  | .rejectAdminActionRequest audit => Required.rejectAdminActionRequest audit
  | .cancelAdminActionRequest audit => Required.cancelAdminActionRequest audit
  | .expireAdminActionRequestIfStale audit => Required.expireAdminActionRequestIfStale audit
  | .expireStaleAdminActionRequests audits => Required.expireStaleAdminActionRequests audits

/-- Where the first audit write that fails leaves the changes pending, they are lost with the
session; and no helper has committed them before. -/
def Operation.Safe (cfg : CaseConfig) (found : Found) (saved : Bool) : Operation → Prop
  | .verifyPendingLoginRecoveryCode userId audit =>
      ∀ p ∈ audit, found.hasFailures userId .mfa = false ∧ Lost saved p
  | .verifyResetRecoveryCode transactionId audit =>
      ∀ p ∈ audit, found.hasResetFailures transactionId = false ∧ Lost saved p
  | .changeOwnPassword actorId audit =>
      ∀ p ∈ audit, found.hasFailures actorId .passwordChange = false ∧ Lost saved p
  | .verifyInviteAcceptance audits =>
      ∀ p ∈ firstFailure [audits.1, audits.2.1, audits.2.2], Lost saved p
  | .approveAdminActionRequest actor r audit written marked executed =>
      ApprovalSafe saved (executionOf cfg found actor r audit written) marked executed
  | .expireStaleAdminActionRequests audits => ∀ p ∈ firstFailure audits, Lost saved p
  | .changePassword audit
  | .verifyMfaSetup audit
  | .verifyMfaReplacement audit
  | .completePasswordReset audit
  | .confirmOwnMfaChange audit
  | .createStaffInvite audit
  | .resendStaffSetupInvite audit
  | .revokeStaffInvite audit
  | .reissueStaffInvite _ audit _
  | .resetStaffInviteAcceptance _ audit
  | .createAdminActionRequest audit
  | .rejectAdminActionRequest audit
  | .cancelAdminActionRequest audit
  | .expireAdminActionRequestIfStale audit => ∀ p ∈ audit, Lost saved p

section Operations

variable {saved : Bool} {cs : List Change}

theorem firstFailure_singleton (audit : Option FailPoint) : firstFailure [audit] = audit := by
  cases audit <;> rfl

theorem recorded_once_iff (hcs : cs ≠ []) (audit : Option FailPoint) :
    Recorded saved (recorded cs false [audit]) ↔ ∀ p ∈ audit, Lost saved p := by
  rw [recorded_iff hcs, firstFailure_singleton]
  simp

theorem recorded_counter_iff (hcs : cs ≠ []) (counter : Bool) (audit : Option FailPoint) :
    Recorded saved (recorded cs counter [audit]) ↔ ∀ p ∈ audit, counter = false ∧ Lost saved p := by
  rw [recorded_iff hcs, firstFailure_singleton]

theorem operation_iff (cfg : CaseConfig) (found : Found) (op : Operation) :
    Recorded saved (op.call cfg found) ↔ op.Safe cfg found saved := by
  cases op with
  | changePassword audit => exact recorded_once_iff (List.cons_ne_nil _ _) audit
  | verifyMfaSetup audit => exact recorded_once_iff (List.cons_ne_nil _ _) audit
  | verifyMfaReplacement audit => exact recorded_once_iff (List.cons_ne_nil _ _) audit
  | completePasswordReset audit => exact recorded_once_iff (List.cons_ne_nil _ _) audit
  | verifyPendingLoginRecoveryCode userId audit =>
      exact recorded_counter_iff (List.cons_ne_nil _ _) (found.hasFailures userId .mfa) audit
  | verifyResetRecoveryCode transactionId audit =>
      exact recorded_counter_iff (List.cons_ne_nil _ _) (found.hasResetFailures transactionId) audit
  | changeOwnPassword actorId audit =>
      exact recorded_counter_iff (List.cons_ne_nil _ _) (found.hasFailures actorId .passwordChange)
        audit
  | confirmOwnMfaChange audit => exact recorded_once_iff (List.cons_ne_nil _ _) audit
  | createStaffInvite audit => exact recorded_once_iff (List.cons_ne_nil _ _) audit
  | resendStaffSetupInvite audit => exact recorded_once_iff (List.cons_ne_nil _ _) audit
  | revokeStaffInvite audit => exact recorded_once_iff (List.cons_ne_nil _ _) audit
  | reissueStaffInvite inviteId audit written => exact reissue_iff found inviteId audit written
  | resetStaffInviteAcceptance inviteId audit =>
      exact recorded_once_iff (resetChanges_ne found inviteId) audit
  | verifyInviteAcceptance audits =>
      refine (recorded_iff (List.cons_ne_nil _ _) false _).trans ?_
      simp [Operation.Safe]
  | createAdminActionRequest audit => exact recorded_once_iff (List.cons_ne_nil _ _) audit
  | approveAdminActionRequest actor r audit written marked executed =>
      exact approve_iff (executionOf cfg found actor r audit written) marked executed
  | rejectAdminActionRequest audit => exact recorded_once_iff (List.cons_ne_nil _ _) audit
  | cancelAdminActionRequest audit => exact recorded_once_iff (List.cons_ne_nil _ _) audit
  | expireAdminActionRequestIfStale audit => exact recorded_once_iff (List.cons_ne_nil _ _) audit
  | expireStaleAdminActionRequests audits => exact expireStale_iff audits

end Operations

/-- A failed audit write leaves no change exactly under these conditions. -/
theorem no_unaudited_change_iff (cfg : CaseConfig) (found : Found) (saved : Bool) (op : Operation)
    (i : Admin.Starts.StartInput) (steps : Admin.Starts.StartSteps) (rows : Admin.Starts.Rows) :
    (Recorded saved (op.call cfg found) ↔ op.Safe cfg found saved) ∧
      ((StartAuditFails steps rows → Admin.Starts.FailureHarmless i steps rows) ↔
        (StartAuditFails steps rows → StartSafe i steps rows)) :=
  ⟨operation_iff cfg found op, imp_congr_right start_iff⟩

/-- The new password is saved with the session when the hash of the event cannot be
computed. -/
theorem changePassword_unaudited : ¬Recorded true (changePassword (some .hash)) := by
  intro h
  have hlost := (recorded_once_iff (List.cons_ne_nil _ _) (some .hash)).mp h .hash rfl
  rcases hlost with hends | hsaved
  · cases hends
  · cases hsaved

end SitBank.Audit.Required
