import SitBank.Interaction.Call

/-!
The start of an invite's acceptance, step by step (`app/admin/services.py`).

What a start writes is pending in the database session of the request, and three things
settle it: the start's own commit or rollback, the best-effort audit events, which commit what
they find or roll it back, and the saving of the browser session at the end of every request,
which commits. One of the audit events is written while the MFA secret is encrypted, in the
middle of the start.

The model begins after the input checks, to which the session binding of the invite belongs: its
second check, of an invite with a setup user, repeats the first. An error of the database ends
the transaction. The setup user is the account that the invite refers to.
-/

namespace SitBank.Admin.Starts

open SitBank.Interaction

/-! ### Rows -/

/-- `ACTIVE_INVITE_STATUSES`. -/
inductive InviteStatus
  | pending
  | totpPending
  deriving DecidableEq, Repr

structure Invite where
  role : String
  status : InviteStatus
  acceptanceSessionHash : Option String
  acceptanceStartCount : ℕ
  workplaceVerificationCodeHmac : Option String
  deriving DecidableEq, Repr

/-- The account, with its former password hashes, newest first. -/
structure SetupUser where
  accountStatus : String
  accountType : String
  fullName : String
  phoneNumber : String
  staffPersonalEmail : Option String
  passwordHash : String
  passwordHistory : List String
  mfaSecret : Option String
  deriving DecidableEq, Repr

structure Rows where
  invite : Invite
  setupUser : Option SetupUser
  deriving DecidableEq, Repr

/-- The committed rows, and those that the transaction sees. -/
structure StartState where
  committed : Rows
  pending : Rows
  deriving DecidableEq, Repr

def StartState.fresh (rows : Rows) : StartState := ⟨rows, rows⟩

def StartState.commit (st : StartState) : StartState := .fresh st.pending

def StartState.rollback (st : StartState) : StartState := .fresh st.committed

def StartState.write (f : Rows → Rows) (st : StartState) : StartState :=
  { st with pending := f st.pending }

/-! ### The start -/

structure StartInput where
  name : String
  phone : String
  /-- `hash_password(password)`. -/
  passwordHash : String
  /-- `encrypt_mfa_secret(secret, user.id)`. -/
  mfaSecret : String
  sessionHash : String
  codeHmac : String
  historyRetention : ℕ

/-- The steps that succeed. -/
structure StartSteps where
  /-- No other account has the email address or the phone number. -/
  unused : Bool
  hashed : Bool
  inserted : Bool
  pruned : Bool
  keyFound : Bool
  /-- The audit event of the encryption is committed. -/
  cryptoAudit : Bool
  refreshed : Bool
  sent : Bool
  sentAudit : Bool
  startedAudit : Bool
  committed : Bool
  cleaned : Bool
  failureAudits : Bool × Bool
  rendered : Bool
  /-- The session is saved at the end of the request. -/
  saved : Bool

inductive StartError
  | duplicateIdentity
  | genericInvite
  | workplaceDelivery
  | hashingError
  | mfaKeyError
  | databaseError
  | emailError
  | auditWriteError
  | renderError
  deriving DecidableEq, Repr

abbrev StartCall (α : Type) := Call StartState StartError α

def auditEvent (written : Bool) : StartCall Unit :=
  modify fun st => if written then st.commit else st.rollback

/-- An error of the database ends the transaction. -/
def database (ok : Bool) : StartCall Unit :=
  if ok then pure () else do
    modify StartState.rollback
    throw .databaseError

def newUser (i : StartInput) (invite : Invite) : SetupUser where
  accountStatus := "setup_pending"
  accountType := invite.role
  fullName := i.name
  phoneNumber := i.phone
  staffPersonalEmail := none
  passwordHash := i.passwordHash
  passwordHistory := []
  mfaSecret := none

/-- A setup user whose password is not hashed yet. -/
def SetupUser.renamed (i : StartInput) (u : SetupUser) : SetupUser :=
  { u with
    fullName := i.name
    phoneNumber := i.phone
    passwordHistory := if u.passwordHash = "" then u.passwordHistory
      else u.passwordHash :: u.passwordHistory }

/-- `replace_user_password`, after the history has its new entry. -/
def SetupUser.rewritten (i : StartInput) (u : SetupUser) : SetupUser :=
  { u.renamed i with
    passwordHash := i.passwordHash
    passwordHistory := (u.renamed i).passwordHistory.take i.historyRetention
    staffPersonalEmail := none }

def SetupUser.ready (invite : Invite) (u : SetupUser) : Bool :=
  u.accountStatus = "setup_pending" && u.accountType = invite.role

section Start

variable (i : StartInput) (steps : StartSteps)

def createSetupUser : StartCall Unit := do
  if !steps.unused then do
    auditEvent steps.failureAudits.1
    throw .duplicateIdentity
  else do
    raiseIf (!steps.hashed) .hashingError
    database steps.inserted
    modify (StartState.write fun rows => { rows with setupUser := some (newUser i rows.invite) })

def reuseSetupUser (u : SetupUser) : StartCall Unit := do
  let st ← get
  raiseIf (!u.ready st.pending.invite) .genericInvite
  modify (StartState.write fun rows => { rows with setupUser := some (u.renamed i) })
  raiseIf (!steps.hashed) .hashingError
  database steps.pruned
  modify (StartState.write fun rows => { rows with setupUser := some (u.rewritten i) })

/-- Whether the setup user was created by the start. -/
def prepareSetupUser : StartCall Bool := do
  let st ← get
  match st.pending.setupUser with
  | none => do
      createSetupUser i steps
      pure true
  | some u => do
      reuseSetupUser i steps u
      pure false

/-- The audit event of the encryption settles everything before it. -/
def encryptMfaSecret : StartCall Unit := do
  raiseIf (!steps.keyFound) .mfaKeyError
  auditEvent steps.cryptoAudit

def withSecret (rows : Rows) : Rows :=
  { rows with setupUser := rows.setupUser.map fun u => { u with mfaSecret := some i.mfaSecret } }

def started (rows : Rows) : Rows :=
  { rows with invite := { rows.invite with
      status := .totpPending
      acceptanceSessionHash := some i.sessionHash
      acceptanceStartCount := rows.invite.acceptanceStartCount + 1 } }

def withCode (rows : Rows) : Rows :=
  { rows with invite := { rows.invite with workplaceVerificationCodeHmac := some i.codeHmac } }

/-- The `try` block. -/
def sendAndCommit : StartCall Unit := do
  modify (StartState.write (withCode i))
  raiseIf (!steps.sent) .emailError
  raiseIf (!steps.sentAudit) .auditWriteError
  raiseIf (!steps.startedAudit) .auditWriteError
  raiseIf (!steps.committed) .databaseError
  modify StartState.commit

def Invite.cleared (invite : Invite) : Invite :=
  { invite with
    status := .pending
    acceptanceSessionHash := none
    acceptanceStartCount := 0
    workplaceVerificationCodeHmac := none }

/-- Nothing is cleared where the setup user was there before. -/
def clearFailedInviteAcceptanceStart (created : Bool) : StartCall Unit :=
  if created then do
    modify (StartState.write fun rows => ⟨rows.invite.cleared, none⟩)
    database steps.cleaned
  else pure ()

def handleFailure (created : Bool) : StartCall Unit := do
  modify StartState.rollback
  clearFailedInviteAcceptanceStart steps created
  auditEvent steps.failureAudits.1
  auditEvent steps.failureAudits.2
  throw .workplaceDelivery

def completeStart (created : Bool) : StartCall Unit := do
  modify (StartState.write (withSecret i))
  database steps.refreshed
  modify (StartState.write (started i))
  tryCatch (sendAndCommit i steps) fun _ => handleFailure steps created
  raiseIf (!steps.rendered) .renderError

def startInviteAcceptance : StartCall Unit := do
  let created ← prepareSetupUser i steps
  encryptMfaSecret steps
  completeStart i steps created

/-- The end of the request: the session is saved, and what is pending committed with it. -/
def endRequest (st : StartState) : StartState := if steps.saved then st.commit else st.rollback

/-- If the start raises, the committed rows are what they were, after the request. -/
def FailureHarmless (rows : Rows) : Prop :=
  Ends (startInviteAcceptance i steps)
    (fun r st' => match r with
      | .ok _ => True
      | .error _ => (endRequest steps st').committed = rows)
    (.fresh rows)

end Start

/-! ### When a failure is harmless -/

def StartSteps.delivered (steps : StartSteps) : Bool :=
  steps.sent && steps.sentAudit && steps.startedAudit && steps.committed

/-- The first start of an invite, once its setup user is inserted. What the encryption's audit
event has committed has to be cleared, and clearing has to lead back to the old invite. -/
def HarmlessFirst (steps : StartSteps) (invite : Invite) : Prop :=
  if steps.keyFound then
    if steps.cryptoAudit then
      steps.refreshed = true ∧
        if steps.delivered then steps.rendered = true
        else steps.cleaned = true ∧ steps.failureAudits.1 = true ∧ invite.cleared = invite
    else
      steps.refreshed = true →
        if steps.delivered then steps.rendered = true
        else steps.cleaned = true → steps.failureAudits.1 = true → invite.cleared = invite
  else steps.saved = false

/-- A further start, with a setup user that is ready. -/
def HarmlessAgain (i : StartInput) (steps : StartSteps) (u : SetupUser) : Prop :=
  if steps.hashed then
    steps.pruned = true →
      if steps.keyFound then
        if steps.refreshed && steps.delivered then steps.rendered = true
        else steps.cryptoAudit = true → u.rewritten i = u
      else steps.saved = true → u.rewritten i = u
  else steps.saved = true → u.renamed i = u

def Harmless (i : StartInput) (steps : StartSteps) (rows : Rows) : Prop :=
  match rows.setupUser with
  | none => steps.unused = true → steps.hashed = true → steps.inserted = true →
      HarmlessFirst steps rows.invite
  | some u => u.ready rows.invite = true → HarmlessAgain i steps u

section Proofs

variable {i : StartInput} {steps : StartSteps} {rows : Rows}

/-- What is committed when the start has failed or ended. -/
def leftRows (i : StartInput) (steps : StartSteps) (created : Bool) (rows : Rows) : Rows :=
  if steps.refreshed then
    if steps.delivered then withCode i (started i (withSecret i rows))
    else if created && steps.cleaned && steps.failureAudits.1 then ⟨rows.invite.cleared, none⟩
    else rows
  else rows

theorem ends_sendAndCommit (rows rows' : Rows) : Ends (sendAndCommit i steps)
    (fun r st' => match r with
      | .ok _ => steps.delivered = true ∧ st' = .fresh (withCode i rows')
      | .error _ => steps.delivered = false ∧ st'.committed = rows)
    ⟨rows, rows'⟩ := by
  unfold sendAndCommit StartSteps.delivered
  refine Ends.modify_bind (Ends.raiseIf_bind (fun h => ⟨?_, rfl⟩) fun h₁ => ?_)
  · simp_all
  refine Ends.raiseIf_bind (fun h => ⟨?_, rfl⟩) fun h₂ => ?_
  · simp_all
  refine Ends.raiseIf_bind (fun h => ⟨?_, rfl⟩) fun h₃ => ?_
  · simp_all
  refine Ends.raiseIf_bind (fun h => ⟨?_, rfl⟩) fun h₄ => ?_
  · simp_all
  refine ⟨?_, rfl⟩
  simp_all

theorem ends_handleFailure (created : Bool) {st : StartState} (hst : st.committed = rows) :
    Ends (handleFailure steps created)
      (fun r st' => (∃ e, r = .error e) ∧ st' = .fresh
        (if created && steps.cleaned && steps.failureAudits.1 then ⟨rows.invite.cleared, none⟩
          else rows)) st := by
  subst hst
  unfold handleFailure clearFailedInviteAcceptanceStart database auditEvent
  cases created <;> cases steps.cleaned <;> cases steps.failureAudits.1 <;>
    cases steps.failureAudits.2 <;> exact ⟨⟨_, rfl⟩, rfl⟩

theorem ends_completeStart (created : Bool) (rows : Rows) : Ends (completeStart i steps created)
    (fun r st' => st' = .fresh (leftRows i steps created rows) ∧ ((∃ u, r = .ok u) ↔
      steps.refreshed = true ∧ steps.delivered = true ∧ steps.rendered = true))
    (.fresh rows) := by
  unfold completeStart database leftRows
  refine Ends.modify_bind ?_
  cases hrefreshed : steps.refreshed with
  | false => exact ⟨rfl, by simp⟩
  | true =>
  refine Ends.bind_ok rfl (Ends.modify_bind ?_)
  have htry : Ends (tryCatch (sendAndCommit i steps) fun _ => handleFailure steps created)
      (fun r st' => match r with
        | .ok _ => steps.delivered = true ∧
          st' = .fresh (withCode i (started i (withSecret i rows)))
        | .error _ => steps.delivered = false ∧ st' = .fresh
          (if created && steps.cleaned && steps.failureAudits.1 then ⟨rows.invite.cleared, none⟩
            else rows))
      ⟨rows, started i (withSecret i rows)⟩ := by
    refine (ends_sendAndCommit rows _).tryCatch (fun _ _ h => h) fun e st' h => ?_
    refine (ends_handleFailure created h.2).mono ?_
    rintro _ st'' ⟨⟨e', rfl⟩, hst''⟩
    exact ⟨h.1, hst''⟩
  refine htry.bind (fun _ st' h => ?_) fun e st' h => ?_
  · obtain ⟨hdelivered, rfl⟩ := h
    rw [hdelivered]
    refine Ends.raiseIf (fun h => ⟨rfl, ?_⟩) fun h => ⟨rfl, ?_⟩
    · simp_all
    · simp_all
  · obtain ⟨hdelivered, rfl⟩ := h
    rw [hdelivered]
    exact ⟨rfl, by simp⟩

/-- The start returns, once its setup user is prepared. -/
def StartSteps.Returns (steps : StartSteps) : Prop :=
  steps.keyFound = true ∧ steps.refreshed = true ∧ steps.delivered = true ∧ steps.rendered = true

/-- The state that is left where it does not. -/
def leftState (i : StartInput) (steps : StartSteps) (created : Bool) (rows rows' : Rows) :
    StartState :=
  if steps.keyFound then
    .fresh (leftRows i steps created (if steps.cryptoAudit then rows' else rows))
  else ⟨rows, rows'⟩

theorem ends_encryptAndComplete (created : Bool) (rows rows' : Rows) :
    Ends (encryptMfaSecret steps >>= fun _ => completeStart i steps created)
      (fun r st' => ((∃ u, r = .ok u) ↔ steps.Returns) ∧
        st' = leftState i steps created rows rows') ⟨rows, rows'⟩ := by
  unfold StartSteps.Returns leftState
  cases hkey : steps.keyFound with
  | false =>
      have hraised : encryptMfaSecret steps ⟨rows, rows'⟩ = .error .mfaKeyError ⟨rows, rows'⟩ := by
        unfold encryptMfaSecret
        rw [hkey]
        rfl
      exact Ends.bind_error hraised ⟨by simp, rfl⟩
  | true =>
      have hsettled : encryptMfaSecret steps ⟨rows, rows'⟩ =
          .ok () (.fresh (if steps.cryptoAudit then rows' else rows)) := by
        unfold encryptMfaSecret auditEvent
        rw [hkey]
        cases steps.cryptoAudit <;> rfl
      refine Ends.bind_ok hsettled ((ends_completeStart created _).mono fun r st' h => ?_)
      exact ⟨by simpa using h.2, h.1⟩

/-- A call with one end is harmless if it returns or leaves the rows as they were. -/
theorem harmless_iff {m : StartCall Unit} {st left : StartState} {P : Prop}
    (h : Ends m (fun r st' => ((∃ u, r = .ok u) ↔ P) ∧ st' = left) st) :
    Ends m (fun r st' => match r with
      | .ok _ => True
      | .error _ => (endRequest steps st').committed = rows) st ↔
      P ∨ (endRequest steps left).committed = rows := by
  unfold Ends at *
  cases hm : m st with
  | ok u st' =>
      rw [hm] at h
      exact iff_of_true trivial (.inl (h.1.mp ⟨u, rfl⟩))
  | error e st' =>
      rw [hm] at h
      obtain ⟨hreturns, rfl⟩ := h
      have hnot : ¬P := fun hP => nomatch hreturns.mpr hP
      exact (or_iff_right hnot).symm

theorem endRequest_fresh (rows : Rows) : (endRequest steps (.fresh rows)).committed = rows := by
  unfold endRequest
  cases steps.saved <;> rfl

theorem endRequest_open (rows rows' : Rows) :
    (endRequest steps ⟨rows, rows'⟩).committed = if steps.saved then rows' else rows := by
  unfold endRequest
  cases steps.saved <;> rfl

theorem started_ne (rows rows' : Rows) (h : rows'.invite = rows.invite) :
    withCode i (started i (withSecret i rows')) ≠ rows := by
  intro heq
  have hcount : rows'.invite.acceptanceStartCount + 1 = rows.invite.acceptanceStartCount :=
    congrArg (fun rows : Rows => rows.invite.acceptanceStartCount) heq
  rw [h] at hcount
  omega

theorem first_iff (invite : Invite) :
    (steps.Returns ∨ (endRequest steps (leftState i steps true ⟨invite, none⟩
      ⟨invite, some (newUser i invite)⟩)).committed = ⟨invite, none⟩) ↔
      HarmlessFirst steps invite := by
  have hnew : (⟨invite, some (newUser i invite)⟩ : Rows) ≠ ⟨invite, none⟩ := by simp
  have hcleared : (⟨invite.cleared, none⟩ : Rows) = ⟨invite, none⟩ ↔ invite.cleared = invite := by
    simp
  unfold leftState HarmlessFirst StartSteps.Returns leftRows
  cases steps.keyFound with
  | false =>
      rw [if_neg (by decide), endRequest_open]
      cases steps.saved <;> simp
  | true =>
      rw [if_pos rfl, endRequest_fresh]
      have hstarted (rows : Rows) (h : rows.invite = invite) :
          withCode i (started i (withSecret i rows)) ≠ ⟨invite, none⟩ := started_ne _ _ h
      cases steps.cryptoAudit <;> cases steps.refreshed <;> cases steps.delivered <;>
        cases steps.cleaned <;> cases steps.failureAudits.1 <;> simp [hstarted]

theorem again_iff (invite : Invite) (u : SetupUser) :
    (steps.Returns ∨ (endRequest steps (leftState i steps false ⟨invite, some u⟩
      ⟨invite, some (u.rewritten i)⟩)).committed = ⟨invite, some u⟩) ↔
      if steps.keyFound then
        if steps.refreshed && steps.delivered then steps.rendered = true
        else steps.cryptoAudit = true → u.rewritten i = u
      else steps.saved = true → u.rewritten i = u := by
  unfold leftState StartSteps.Returns leftRows
  cases steps.keyFound with
  | false =>
      rw [if_neg (by decide), endRequest_open]
      cases steps.saved <;> simp
  | true =>
      rw [if_pos rfl, endRequest_fresh]
      have hstarted (rows : Rows) (h : rows.invite = invite) :
          withCode i (started i (withSecret i rows)) ≠ ⟨invite, some u⟩ := started_ne _ _ h
      cases steps.cryptoAudit <;> cases steps.refreshed <;> cases steps.delivered <;>
        simp [hstarted]

theorem prepareSetupUser_first (invite : Invite) :
    prepareSetupUser i steps (.fresh ⟨invite, none⟩) =
      if !steps.unused then .error .duplicateIdentity (.fresh ⟨invite, none⟩)
      else if !steps.hashed then .error .hashingError (.fresh ⟨invite, none⟩)
      else if !steps.inserted then .error .databaseError (.fresh ⟨invite, none⟩)
      else .ok true ⟨⟨invite, none⟩, ⟨invite, some (newUser i invite)⟩⟩ := by
  unfold prepareSetupUser createSetupUser auditEvent database
  cases steps.unused <;> cases steps.failureAudits.1 <;> cases steps.hashed <;>
    cases steps.inserted <;> rfl

theorem reuseSetupUser_fresh (invite : Invite) (u : SetupUser) :
    reuseSetupUser i steps u (.fresh ⟨invite, some u⟩) =
      if !u.ready invite then .error .genericInvite (.fresh ⟨invite, some u⟩)
      else if !steps.hashed then
        .error .hashingError ⟨⟨invite, some u⟩, ⟨invite, some (u.renamed i)⟩⟩
      else if !steps.pruned then .error .databaseError (.fresh ⟨invite, some u⟩)
      else .ok () ⟨⟨invite, some u⟩, ⟨invite, some (u.rewritten i)⟩⟩ := by
  have hreuse : reuseSetupUser i steps u (.fresh ⟨invite, some u⟩) = (do
      raiseIf (!u.ready invite) StartError.genericInvite
      modify (StartState.write fun rows => { rows with setupUser := some (u.renamed i) })
      raiseIf (!steps.hashed) .hashingError
      database steps.pruned
      modify (StartState.write fun rows => { rows with setupUser := some (u.rewritten i) })
      : StartCall Unit) (.fresh ⟨invite, some u⟩) := rfl
  rw [hreuse]
  unfold database
  cases u.ready invite <;> cases steps.hashed <;> cases steps.pruned <;> rfl

theorem prepareSetupUser_again (invite : Invite) (u : SetupUser) :
    prepareSetupUser i steps (.fresh ⟨invite, some u⟩) =
      if !u.ready invite then .error .genericInvite (.fresh ⟨invite, some u⟩)
      else if !steps.hashed then
        .error .hashingError ⟨⟨invite, some u⟩, ⟨invite, some (u.renamed i)⟩⟩
      else if !steps.pruned then .error .databaseError (.fresh ⟨invite, some u⟩)
      else .ok false ⟨⟨invite, some u⟩, ⟨invite, some (u.rewritten i)⟩⟩ := by
  have hreuse := @reuseSetupUser_fresh i steps invite u
  have hprepare : prepareSetupUser i steps (.fresh ⟨invite, some u⟩) =
      (reuseSetupUser i steps u >>= fun _ => pure false) (.fresh ⟨invite, some u⟩) := rfl
  rw [hprepare]
  show EStateM.bind _ _ _ = _
  unfold EStateM.bind
  rw [hreuse]
  cases u.ready invite <;> cases steps.hashed <;> cases steps.pruned <;> rfl

theorem failureHarmless_first (invite : Invite) : FailureHarmless i steps ⟨invite, none⟩ ↔
    (steps.unused = true → steps.hashed = true → steps.inserted = true →
      HarmlessFirst steps invite) := by
  unfold FailureHarmless startInviteAcceptance
  have hprepare := @prepareSetupUser_first i steps invite
  cases hunused : steps.unused with
  | false =>
      rw [hunused] at hprepare
      rw [Ends.bind_error_iff hprepare]
      simp [endRequest_fresh]
  | true =>
  cases hhashed : steps.hashed with
  | false =>
      rw [hunused, hhashed] at hprepare
      rw [Ends.bind_error_iff hprepare]
      simp [endRequest_fresh]
  | true =>
  cases hinserted : steps.inserted with
  | false =>
      rw [hunused, hhashed, hinserted] at hprepare
      rw [Ends.bind_error_iff hprepare]
      simp [endRequest_fresh]
  | true =>
      rw [hunused, hhashed, hinserted] at hprepare
      rw [Ends.bind_ok_iff hprepare, harmless_iff (ends_encryptAndComplete _ _ _), first_iff]
      simp

theorem failureHarmless_again (invite : Invite) (u : SetupUser) :
    FailureHarmless i steps ⟨invite, some u⟩ ↔
      (u.ready invite = true → HarmlessAgain i steps u) := by
  unfold FailureHarmless startInviteAcceptance
  have hprepare := @prepareSetupUser_again i steps invite u
  cases hready : u.ready invite with
  | false =>
      rw [hready] at hprepare
      rw [Ends.bind_error_iff hprepare]
      simp [endRequest_fresh]
  | true =>
  unfold HarmlessAgain
  cases hhashed : steps.hashed with
  | false =>
      -- the new name and the entry of the history are pending, and the session is saved
      rw [hready, hhashed] at hprepare
      rw [Ends.bind_error_iff hprepare]
      dsimp only
      rw [endRequest_open]
      cases steps.saved <;> simp
  | true =>
  cases hpruned : steps.pruned with
  | false =>
      rw [hready, hhashed, hpruned] at hprepare
      rw [Ends.bind_error_iff hprepare]
      simp [endRequest_fresh]
  | true =>
      rw [hready, hhashed, hpruned] at hprepare
      rw [Ends.bind_ok_iff hprepare, harmless_iff (ends_encryptAndComplete _ _ _), again_iff]
      simp

variable (i steps rows) in
/-- A failed start is harmless exactly under these conditions on what fails. -/
theorem failedStart_harmless_iff : FailureHarmless i steps rows ↔ Harmless i steps rows := by
  obtain ⟨invite, setupUser⟩ := rows
  cases setupUser with
  | none => exact failureHarmless_first invite
  | some u => exact failureHarmless_again invite u

end Proofs

/-! ### A second start whose email is not sent -/

def invitedAgain : Rows where
  invite :=
    { role := "staff"
      status := .totpPending
      acceptanceSessionHash := some "5e55"
      acceptanceStartCount := 1
      workplaceVerificationCodeHmac := some "c0de" }
  setupUser := some
    { accountStatus := "setup_pending"
      accountType := "staff"
      fullName := "Tan Wei"
      phoneNumber := "91234567"
      staffPersonalEmail := none
      passwordHash := "first"
      passwordHistory := []
      mfaSecret := some "secret" }

def secondInput : StartInput where
  name := "Tan Wei Ling"
  phone := "91234567"
  passwordHash := "second"
  mfaSecret := "secret2"
  sessionHash := "5e55"
  codeHmac := "c0de2"
  historyRetention := 5

def unsentEmail : StartSteps where
  unused := true
  hashed := true
  inserted := true
  pruned := true
  keyFound := true
  cryptoAudit := true
  refreshed := true
  sent := false
  sentAudit := true
  startedAudit := true
  committed := true
  cleaned := true
  failureAudits := (true, true)
  rendered := true
  saved := true

/-- The name, the password and its history are the new ones. -/
theorem unsentEmail_harmful : ¬FailureHarmless secondInput unsentEmail invitedAgain := by
  intro h
  have hagain := (failureHarmless_again _ _).mp h (by decide)
  simp [HarmlessAgain, unsentEmail, StartSteps.delivered] at hagain
  exact absurd hagain (by decide)

end SitBank.Admin.Starts
