import SitBank.Banking.Models
import SitBank.Python.Text

/-!
The transfers of `app/banking/services.py`, with the audit and notification
helpers they use (`app/security/audit.py`).

Audit rows and e-mails are not stored: what matters of them is that they can
fail and that `audit_event` commits, or rolls back, the session of its caller.
An argument that names an instance stands for the key of its row, and every
attribute access is a `load`, because a commit may have expired the instance.
-/

namespace SitBank.Banking

open SitBank.Interaction SitBank.Orm SitBank.Python

/-! ### Instances -/

abbrev loadUser (id : ℕ) : BankReq User := load (S := bank) (Key.user id)

abbrev loadPayee (id : ℕ) : BankReq Payee := load (S := bank) (Key.payee id)

abbrev loadPendingTransfer (token : String) : BankReq PendingTransfer :=
  load (S := bank) (Key.pending token)

abbrev loadPayupPendingTransfer (token : String) : BankReq PayupPendingTransfer :=
  load (S := bank) (Key.payupPending token)

abbrev assignUser (id : ℕ) (f : User → User) : BankReq Unit :=
  assign (S := bank) (Key.user id) f

abbrev assignPendingTransfer (token : String) (f : PendingTransfer → PendingTransfer) :
    BankReq Unit :=
  assign (S := bank) (Key.pending token) f

abbrev assignPayupPendingTransfer (token : String)
    (f : PayupPendingTransfer → PayupPendingTransfer) : BankReq Unit :=
  assign (S := bank) (Key.payupPending token) f

/-! ### Audit -/

/-- `user.id` on an instance that may be expired. -/
def touchUser : Option ℕ → BankReq Unit
  | none => pure ()
  | some id => do
      let _ ← loadUser id
      pure ()

/-- The body of `_audit_event`: the chain lock and the latest hash, the hash of
the event, the flush. -/
def insertAuditEvent : BankReq Unit := do
  query fun _ => ()
  check (.runtime .auditHash)
  query fun _ => ()

def auditEvent (user : Option ℕ) : BankReq Unit := do
  touchUser user
  (insertAuditEvent.bind fun _ => commit).tryCatch fun _ => rollback

def auditEventRequired (user : Option ℕ) : BankReq Unit := do
  touchUser user
  insertAuditEvent.tryCatch fun _ => raise .auditWrite

def auditReference : BankReq Unit := check (.runtime .auditReference)

/-- `audit_outbound_transfer(.., "failure")`. -/
def auditOutboundTransferFailure (sender : ℕ) : BankReq Unit := auditEvent (some sender)

/-- `audit_outbound_transfer(.., "success")`: a success is a durable audit event,
and `audit_banking_action` commits it. -/
def auditOutboundTransferSuccess (sender : ℕ) : BankReq Unit := do
  auditReference
  auditEventRequired (some sender)
  commit

/-! ### Notifications -/

def sendBankingEmail (user : ℕ) : BankReq Unit := do
  (Prog.bind (loadUser user) fun _ => check (.runtime .email)).tryCatch fun _ => pure ()
  auditEvent (some user)

def sendTransferNotification (user : ℕ) : BankReq Unit := do
  let u ← loadUser user
  if u.transferActivityEmailEnabled then sendBankingEmail user else pure ()

def maybeSendDailyLimitWarning (user : ℕ) (usedBefore amount dailyLimit : ℤ) :
    BankReq Unit :=
  if dailyLimit ≤ 0 then pure ()
  else if 5 * usedBefore ≥ 4 * dailyLimit ∨ 5 * (usedBefore + amount) < 4 * dailyLimit then pure ()
  else sendBankingEmail user

def safeSendNotification (notification : BankReq Unit) : BankReq Unit := do
  mark .notifying
  notification.tryCatch fun _ => pure ()
  mark .boundary

/-! ### The checks before a transfer -/

def User.frozen (u : User) : Bool := u.isFrozen || u.securityLockedAt.isSome

def ensureAccountNotFrozen (u : User) (action : String) : BankReq Unit :=
  if u.frozen then raise (.auth ("Account is frozen; " ++ action ++ " is blocked") 403)
  else pure ()

def ensureOutboundTransferAllowed (user : ℕ) : BankReq Unit := do
  let u ← loadUser user
  (ensureAccountNotFrozen u "outbound transfers").tryCatch fun e => do
    auditEvent (some user)
    .raise e

def rejectLocalTransfer {α : Type} (sender : ℕ) (message : String) (status : ℕ) : BankReq α := do
  auditOutboundTransferFailure sender
  commit
  sendTransferNotification sender
  raise (.auth message status)

def userByAccountNumber (cfg : Config) (accountNumber : String) (db : BankDb) : Option Key :=
  (cfg.userIds.find? fun id =>
    (db.row (.user id)).any fun u => u.accountNumber = some accountNumber).map Key.user

def localTransferRecipient (cfg : Config) (sender payee : ℕ) : BankReq ℕ := do
  let p ← loadPayee payee
  if p.userId ≠ sender then
    auditReference
    rejectLocalTransfer sender "Transfer denied." 403
  else
    let found ← select (userByAccountNumber cfg p.accountNumber)
    match found with
    | some (.user recipient) =>
        if recipient = sender then
          rejectLocalTransfer sender "Cannot transfer to yourself." 400
        else
          let r ← loadUser recipient
          if r.accountStatus = .active ∨ r.accountStatus = .locked then pure recipient
          else
            rejectLocalTransfer sender
              "Recipient account is not available to receive transfers." 400
    | _ =>
        auditReference
        rejectLocalTransfer sender "Recipient account not found." 400

def ensurePayeeCooldownElapsed (cfg : Config) (sender payee : ℕ) (now : ℤ) : BankReq Unit := do
  let p ← loadPayee payee
  if now - p.createdAt < cfg.payeeCooldownSeconds * 1000000 then
    rejectLocalTransfer sender "Payee is still in cooldown." 400
  else pure ()

def transferConfirmationExpired : String :=
  "Transfer confirmation has expired or was already used."

def unconsumedTransfer (token : String) (sender payee : ℕ) (db : BankDb) : Option Key :=
  match db.row (.pending token) with
  | some p =>
      if p.userId = sender ∧ p.payeeId = payee ∧ p.consumedAt = none then some (.pending token)
      else none
  | none => none

def loadPendingLocalTransfer (cfg : Config) (sender payee : ℕ) (confirmationToken : String)
    (now : ℤ) : BankReq PendingTransfer := do
  let token := cfg.localTransferTokenVerifier confirmationToken
  match ← lockWhere (unconsumedTransfer token sender payee) with
  | none => rejectLocalTransfer sender transferConfirmationExpired 409
  | some _ =>
      let p ← loadPendingTransfer token
      if p.expiresAt < now then rejectLocalTransfer sender transferConfirmationExpired 409
      else pure p

/-- A `Numeric(12, 5)` as a whole number of cents. -/
def wholeCents (amount : ℤ) : Option ℤ := if amount % 1000 = 0 then some (amount / 1000) else none

def localTransferAmount (sender : ℕ) (p : PendingTransfer) : BankReq ℤ :=
  match wholeCents p.amount with
  | none => rejectLocalTransfer sender "Transfer amount must have at most two decimal places." 400
  | some amount =>
      if withinBounds amount then pure amount
      else rejectLocalTransfer sender "Transfer amount is out of the allowed range." 400

def lockTransferParticipants (sender recipient : ℕ) : BankReq Unit :=
  lockRows (if sender ≤ recipient then [Key.user sender, Key.user recipient]
    else [Key.user recipient, Key.user sender])

def ensureLocalTransferBalance (sender payee : ℕ) (amount : ℤ) : BankReq Unit := do
  let s ← loadUser sender
  if s.balance < amount then
    let _ ← loadPayee payee
    auditReference
    rejectLocalTransfer sender "Insufficient funds." 400
  else pure ()

/-! ### Daily usage -/

/-- Midnight in Singapore (UTC+8), as an instant. -/
def sgtDayStart (now : ℤ) : ℤ :=
  (now + 28800000000) / 86400000000 * 86400000000 - 28800000000

def isSent (user : ℕ) (type : TransactionType) (since : ℤ) : Ledger → Bool
  | .transaction txn _ _ =>
      txn.senderId = user && txn.transactionType = type && txn.status = .completed &&
        since ≤ txn.createdAt
  | _ => false

def Ledger.amount : Ledger → ℤ
  | .transaction txn _ _ => txn.amount
  | .topUpCredit credit _ => credit.amount
  | .registrationCredit credit => credit.amount

def amountSent (user : ℕ) (type : TransactionType) (since : ℤ) (log : List Ledger) : ℤ :=
  ((log.filter (isSent user type since)).map Ledger.amount).sum

def amountUsedToday (user : ℕ) (type : TransactionType) : BankReq ℤ := do
  let t ← now
  query fun db => amountSent user type (sgtDayStart t) db.log

def localTransferAmountUsedToday (user : ℕ) : BankReq ℤ := amountUsedToday user .localTransfer

def payupAmountUsedToday (user : ℕ) : BankReq ℤ := amountUsedToday user .payup

def ensureLocalTransferDailyLimit (sender payee : ℕ) (amount : ℤ) :
    BankReq (ℤ × ℤ) := do
  let s ← loadUser sender
  let usedToday ← localTransferAmountUsedToday sender
  if usedToday + amount > s.localTransferDailyLimit then
    let _ ← loadPayee payee
    auditReference
    rejectLocalTransfer sender "This transfer would exceed your daily Local Transfer limit." 409
  else pure (usedToday, s.localTransferDailyLimit)

/-! ### Writing the ledger -/

def setBalance (user : ℕ) (balance : ℤ) : BankReq Unit :=
  assignUser user fun u => { u with balance := balance }

/-- The two balances and the row of the ledger. -/
def bookTransfer (txn : Transaction) (spends : Key) (authorized : Bool) : BankReq Unit := do
  let s ← loadUser txn.senderId
  setBalance txn.senderId (s.balance - txn.amount)
  let r ← loadUser txn.recipientId
  setBalance txn.recipientId (r.balance + txn.amount)
  add (.transaction txn (some spends) authorized)

def auditLocalTransferSuccess (sender payee : ℕ) : BankReq Unit := do
  let _ ← loadPayee payee
  (Prog.bind auditReference fun _ => auditOutboundTransferSuccess sender).tryCatch fun
    | .app .auditWrite => do
        rollback
        raise .auditWrite
    | e => .raise e

/-- The commit at the ledger boundary and the notifications after it. The
arguments of a notification are evaluated before `safe_send_notification` is
entered. -/
def notifyLocalTransfer (sender recipient payee : ℕ) (usedToday amount dailyLimit : ℤ) :
    BankReq Unit := do
  mark .boundary
  commit
  let _ ← loadPayee payee
  let _ ← loadUser sender
  safeSendNotification (sendTransferNotification sender)
  let _ ← loadUser sender
  let _ ← loadUser recipient
  safeSendNotification (sendTransferNotification recipient)
  safeSendNotification (maybeSendDailyLimitWarning sender usedToday amount dailyLimit)

/-- The checks of `execute_local_transfer` up to the lock of the confirmation;
the result is the recipient, the time and the confirmation. -/
def openLocalTransfer (cfg : Config) (sender payee : ℕ) (confirmationToken : String) :
    BankReq (ℕ × ℤ × PendingTransfer) := do
  ensureOutboundTransferAllowed sender
  let recipient ← localTransferRecipient cfg sender payee
  let now ← now
  ensurePayeeCooldownElapsed cfg sender payee now
  let p ← loadPendingLocalTransfer cfg sender payee confirmationToken now
  pure (recipient, now, p)

/-- The checks under the locks of both accounts; the result is the signed
transaction, the amount used today and the daily limit. -/
def prepareLocalTransfer (sender recipient payee : ℕ) (p : PendingTransfer) :
    BankReq (Transaction × ℤ × ℤ) := do
  let amount ← localTransferAmount sender p
  lockTransferParticipants sender recipient
  ensureLocalTransferBalance sender payee amount
  let (usedToday, dailyLimit) ← ensureLocalTransferDailyLimit sender payee amount
  let txnRef ← uuid4
  let createdAt ← now
  check (.runtime .signing)
  pure (⟨txnRef, sender, recipient, some payee, amount, truncate 128 p.reference,
    .completed, .localTransfer, createdAt⟩, usedToday, dailyLimit)

/-- The ledger and what follows it. -/
def settleLocalTransfer (token : String) (payee : ℕ) (txn : Transaction)
    (usedToday dailyLimit : ℤ) : BankReq String := do
  mark .ledger
  bookTransfer txn (.pending token) true
  assignPendingTransfer token fun p => { p with consumedTransactionRef := some txn.transactionRef }
  auditLocalTransferSuccess txn.senderId payee
  notifyLocalTransfer txn.senderId txn.recipientId payee usedToday txn.amount dailyLimit
  pure txn.transactionRef

def executeLocalTransfer (cfg : Config) (sender payee : ℕ) (confirmationToken : String) :
    BankReq String := do
  let (recipient, now, p) ← openLocalTransfer cfg sender payee confirmationToken
  let token := cfg.localTransferTokenVerifier confirmationToken
  assignPendingTransfer token fun p => { p with consumedAt := some now }
  let (txn, usedToday, dailyLimit) ← prepareLocalTransfer sender recipient payee p
  settleLocalTransfer token payee txn usedToday dailyLimit

/-! ### PayUp -/

inductive RiskReason
  | riskStateUnavailable
  | riskStateInvalid
  | payupDisabled
  | mfaNotEnrolled
  | sessionRisk
  | sessionStateUnavailable
  | dailyLimitExceeded
  | staleSession
  | recentSensitiveEvent
  | quickDailyCap
  | quickTransferCap
  deriving DecidableEq, Repr

inductive PayupRiskDecision
  | allow
  | stepUp (reasons : List RiskReason)
  | block (reason : RiskReason)
  deriving DecidableEq, Repr

/-- What the risk policy reads of the browser session. -/
structure SessionRisk where
  age : Option ℤ
  stable : Bool

def payupRiskPolicy (cfg : Config) (session : SessionRisk) (user : User)
    (amount dailyUsed : ℤ) (recentSensitiveEvent : Bool) : PayupRiskDecision :=
  if amount ≤ 0 ∨ dailyUsed < 0 ∨ user.payupDailyLimit ≤ 0 ∨ cfg.payupQuickTransferCap ≤ 0 ∨
      cfg.payupQuickDailyCap ≤ 0 then .block .riskStateInvalid
  else if !user.payupEnabled then .block .payupDisabled
  else if !user.mfaEnabled then .block .mfaNotEnrolled
  else if !session.stable then .block .sessionRisk
  else match session.age with
    | none => .block .sessionStateUnavailable
    | some age =>
      if dailyUsed + amount > user.payupDailyLimit then .block .dailyLimitExceeded
      else if age > cfg.payupQuickSessionMaxAgeSeconds then .block .staleSession
      else if recentSensitiveEvent then .block .recentSensitiveEvent
      else
        let reasons :=
          (if dailyUsed + amount > cfg.payupQuickDailyCap then [.quickDailyCap] else []) ++
            (if amount > cfg.payupQuickTransferCap then [.quickTransferCap] else [])
        if reasons = [] then .allow else .stepUp reasons

def hasRecentPayupSensitiveEvent : BankReq Bool := do
  query fun _ => ()
  ask

def evaluatePayupRisk (cfg : Config) (session : SessionRisk) (user : ℕ) (amount usedToday : ℤ) :
    BankReq PayupRiskDecision :=
  Prog.tryCatch
    (do
      let u ← loadUser user
      let recent ← hasRecentPayupSensitiveEvent
      pure (payupRiskPolicy cfg session u amount usedToday recent))
    fun
      | .db _ => pure (.block .riskStateUnavailable)
      | e => .raise e

def rejectPayupTransfer {α : Type} (sender : ℕ) (message : String) (status : ℕ) : BankReq α := do
  auditOutboundTransferFailure sender
  commit
  raise (.auth message status)

def payupSenderHasNickname (u : User) : Bool :=
  let nickname := strip (u.payupNickname.getD "").toList
  2 ≤ nickname.length && nickname.length ≤ 128 &&
    !nickname.any fun c => c.toNat < 32 || c.toNat = 127

def unconsumedPayupTransfer (token : String) (sender : ℕ) (db : BankDb) : Option Key :=
  match db.row (.payupPending token) with
  | some p =>
      if p.userId = sender ∧ p.consumedAt = none then some (.payupPending token) else none
  | none => none

/-- The lock of an unconsumed and unexpired confirmation, with the time of the
check. -/
def lockPayupPendingTransfer (cfg : Config) (sender : ℕ) (confirmationToken : String) :
    BankReq (ℤ × PayupPendingTransfer) := do
  let token := cfg.payupTransferTokenVerifier confirmationToken
  match ← lockWhere (unconsumedPayupTransfer token sender) with
  | none => rejectPayupTransfer sender transferConfirmationExpired 409
  | some _ =>
      let now ← now
      let p ← loadPayupPendingTransfer token
      if p.expiresAt < now then rejectPayupTransfer sender transferConfirmationExpired 409
      else pure (now, p)

def loadAndLockPayupPendingTransfer (cfg : Config) (sender : ℕ) (confirmationToken : String) :
    BankReq PayupPendingTransfer := do
  let (now, p) ← lockPayupPendingTransfer cfg sender confirmationToken
  assignPayupPendingTransfer (cfg.payupTransferTokenVerifier confirmationToken) fun p =>
    { p with consumedAt := some now }
  pure p

def validatePayupAmount (sender : ℕ) (p : PayupPendingTransfer) : BankReq ℤ :=
  match wholeCents p.amount with
  | none => rejectPayupTransfer sender "Transfer amount must have at most two decimal places." 400
  | some amount =>
      if withinBounds amount then pure amount
      else rejectPayupTransfer sender "Transfer amount is out of the allowed range." 400

def userById (id : ℕ) (db : BankDb) : Option Key :=
  if (db.row (.user id)).isSome then some (.user id) else none

def validatePayupRecipient (sender recipient : ℕ) : BankReq Unit := do
  match ← select (userById recipient) with
  | none => rejectPayupTransfer sender "Recipient account not found." 400
  | some _ =>
      if recipient = sender then rejectPayupTransfer sender "Cannot transfer to yourself." 400
      else
        let r ← loadUser recipient
        if r.accountStatus ≠ .active ∨ r.isFrozen ∨ (r.phoneNumber.getD "").isEmpty then
          rejectPayupTransfer sender "Recipient account is not available to receive transfers." 400
        else pure ()

def auditPayupTransferSuccess (sender : ℕ) : BankReq Unit :=
  (auditOutboundTransferSuccess sender).tryCatch fun
    | .app .auditWrite => do
        rollback
        raise .auditWrite
    | e => .raise e

def notifyPayupTransfer (sender recipient : ℕ) (usedToday amount dailyLimit : ℤ) :
    BankReq Unit := do
  mark .boundary
  commit
  let _ ← loadUser recipient
  let _ ← loadUser sender
  safeSendNotification (sendTransferNotification sender)
  let _ ← loadUser sender
  let _ ← loadUser recipient
  safeSendNotification (sendTransferNotification recipient)
  safeSendNotification (maybeSendDailyLimitWarning sender usedToday amount dailyLimit)

def authorizePayup (sender : ℕ) (authorized : Bool) : PayupRiskDecision → BankReq Unit
  | .block _ => rejectPayupTransfer sender "PayUp could not authorize this transfer." 403
  | .stepUp _ =>
      if authorized then pure ()
      else rejectPayupTransfer sender "Authenticator code is required for this transfer amount." 403
  | .allow => pure ()

/-- The policy is evaluated again under the lock. -/
def reauthorizePayup (cfg : Config) (session : SessionRisk) (sender : ℕ) (authorized : Bool)
    (amount usedToday : ℤ) : BankReq Unit := do
  let risk ← evaluatePayupRisk cfg session sender amount usedToday
  authorizePayup sender authorized risk

/-- The checks before the confirmation is locked. -/
def openPayupTransfer (sender : ℕ) : BankReq Unit := do
  ensureOutboundTransferAllowed sender
  let s ← loadUser sender
  if !payupSenderHasNickname s then
    rejectPayupTransfer sender "Set your PayUp display nickname before sending by phone number." 403
  else pure ()

/-- The checks of `execute_payup_transfer` for the confirmation `p`, under the
locks of both accounts from the third on. -/
def preparePayupTransfer (cfg : Config) (session : SessionRisk) (sender : ℕ)
    (authorized : Bool) (p : PayupPendingTransfer) : BankReq (Transaction × ℤ × ℤ) := do
  let amount ← validatePayupAmount sender p
  let recipient := p.recipientUserId
  validatePayupRecipient sender recipient
  lockTransferParticipants sender recipient
  let usedToday ← payupAmountUsedToday sender
  let s ← loadUser sender
  reauthorizePayup cfg session sender authorized amount usedToday
  if s.balance < amount then rejectPayupTransfer sender "Insufficient funds." 400
  else
    let txnRef ← uuid4
    let createdAt ← now
    check (.runtime .signing)
    pure (⟨txnRef, sender, recipient, none, amount, truncate 128 p.reference, .completed, .payup,
      createdAt⟩, usedToday, s.payupDailyLimit)

def settlePayupTransfer (token : String) (authorized : Bool) (txn : Transaction)
    (usedToday dailyLimit : ℤ) : BankReq String := do
  mark .ledger
  bookTransfer txn (.payupPending token) authorized
  assignPayupPendingTransfer token fun p =>
    { p with consumedTransactionRef := some txn.transactionRef }
  auditPayupTransferSuccess txn.senderId
  notifyPayupTransfer txn.senderId txn.recipientId usedToday txn.amount dailyLimit
  pure txn.transactionRef

def executePayupTransfer (cfg : Config) (session : SessionRisk) (sender : ℕ)
    (confirmationToken : String) (authorized : Bool) : BankReq String := do
  openPayupTransfer sender
  let p ← loadAndLockPayupPendingTransfer cfg sender confirmationToken
  let (txn, usedToday, dailyLimit) ← preparePayupTransfer cfg session sender authorized p
  settlePayupTransfer (cfg.payupTransferTokenVerifier confirmationToken) authorized txn usedToday
    dailyLimit

end SitBank.Banking
