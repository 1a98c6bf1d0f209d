import SitBank.Orm.Hoare

/-!
The tables of the banking component (`app/models.py`), as a store.

Money is counted in cents, time in microseconds. `PendingTransfer.amount` has
five decimal places, so it is counted in units of 10⁻⁵. A row is found under its
primary key, except for the pending transfers and the top-up requests, which the
code finds under their unique token and selector. The ledger tables
(`Transaction`, `TopUpCredit`, `RegistrationCredit`) are insert-only.

A `Transaction` does not name the pending transfer it was made from, nor whether
the sender was asked for a second factor. The ledger entries of the model carry
both, and a `TopUpCredit` the request it was made for; no program reads them.
-/

namespace SitBank.Banking

open SitBank.Orm

inductive AccountType
  | customer
  | staff
  | admin
  | rootAdmin
  deriving DecidableEq, Repr

inductive AccountStatus
  | active
  | setupPending
  | revoked
  | locked
  deriving DecidableEq, Repr

structure User where
  accountType : AccountType
  accountStatus : AccountStatus
  phoneNumber : Option String
  payupNickname : Option String
  accountNumber : Option String
  mfaEnabled : Bool
  balance : ℤ
  payupDailyLimit : ℤ
  payupEnabled : Bool
  transferActivityEmailEnabled : Bool
  localTransferDailyLimit : ℤ
  isFrozen : Bool
  securityLockedAt : Option ℤ
  securityLockReason : Option String
  deriving DecidableEq, Repr

structure Payee where
  userId : ℕ
  accountNumber : String
  createdAt : ℤ
  deriving DecidableEq, Repr

structure PendingTransfer where
  userId : ℕ
  payeeId : ℕ
  amount : ℤ
  reference : String
  expiresAt : ℤ
  consumedAt : Option ℤ
  consumedTransactionRef : Option String
  deriving DecidableEq, Repr

structure PayupPendingTransfer where
  userId : ℕ
  recipientUserId : ℕ
  amount : ℤ
  reference : String
  expiresAt : ℤ
  consumedAt : Option ℤ
  consumedTransactionRef : Option String
  deriving DecidableEq, Repr

inductive ApprovalStatus
  | pending
  | completed
  | expired
  | failed
  deriving DecidableEq, Repr

structure TopUpApprovalRequest where
  verifierHmac : String
  userId : ℕ
  amount : ℤ
  status : ApprovalStatus
  failureCount : ℕ
  expiresAt : ℤ
  approvedAt : Option ℤ
  creditRef : Option String
  deriving DecidableEq, Repr

inductive TransactionStatus
  | completed
  | failed
  deriving DecidableEq, Repr

inductive TransactionType
  | localTransfer
  | payup
  | topup
  deriving DecidableEq, Repr

structure Transaction where
  transactionRef : String
  senderId : ℕ
  recipientId : ℕ
  payeeId : Option ℕ
  amount : ℤ
  reference : String
  status : TransactionStatus
  transactionType : TransactionType
  createdAt : ℤ
  deriving DecidableEq, Repr

/-- A `RegistrationCredit` or `TopUpCredit`; the status of both is always
`completed`. -/
structure Credit where
  creditRef : String
  userId : ℕ
  amount : ℤ
  createdAt : ℤ
  deriving DecidableEq, Repr

inductive Key
  | user (id : ℕ)
  | payee (id : ℕ)
  | pending (token : String)
  | payupPending (token : String)
  | topup (selector : String)
  deriving DecidableEq, Repr

abbrev Row : Key → Type
  | .user _ => User
  | .payee _ => Payee
  | .pending _ => PendingTransfer
  | .payupPending _ => PayupPendingTransfer
  | .topup _ => TopUpApprovalRequest

/-- The rows of the ledger tables. `spends` is the pending transfer a
transaction executes, `request` the request a top-up is credited for. -/
inductive Ledger
  | transaction (txn : Transaction) (spends : Option Key) (authorized : Bool)
  | topUpCredit (credit : Credit) (request : String)
  | registrationCredit (credit : Credit)
  deriving DecidableEq, Repr

/-! ### Bounds (`app/banking/schemas.py`, `app/banking/limits.py`) -/

def minTransactionAmount : ℤ := 1

def maxTransactionAmount : ℤ := 5000000

def dailyLimitMin : ℤ := 10000

def dailyLimitMax : ℤ := 1000000

def withinBounds (amount : ℤ) : Bool :=
  minTransactionAmount ≤ amount && amount ≤ maxTransactionAmount

/-! ### Updates and constraints -/

/-- The column of the stored row after an `UPDATE` that sets it only when the
session changed it. -/
def col {α : Type} [DecidableEq α] (loaded current stored : α) : α :=
  if current = loaded then stored else current

@[simp] theorem col_same {α : Type} [DecidableEq α] (a d : α) : col a a d = d := if_pos rfl

theorem col_ne {α : Type} [DecidableEq α] {l c : α} (h : c ≠ l) (d : α) : col l c d = c :=
  if_neg h

/-- A write is lost only when it writes what was loaded. -/
theorem col_of_imp {α : Type} [DecidableEq α] {l c d : α} (h : l = c → d = c) : col l c d = c := by
  unfold col
  split
  · next hc => exact h hc.symm
  · rfl

def User.merge (l c d : User) : User where
  accountType := col l.accountType c.accountType d.accountType
  accountStatus := col l.accountStatus c.accountStatus d.accountStatus
  phoneNumber := col l.phoneNumber c.phoneNumber d.phoneNumber
  payupNickname := col l.payupNickname c.payupNickname d.payupNickname
  accountNumber := col l.accountNumber c.accountNumber d.accountNumber
  mfaEnabled := col l.mfaEnabled c.mfaEnabled d.mfaEnabled
  balance := col l.balance c.balance d.balance
  payupDailyLimit := col l.payupDailyLimit c.payupDailyLimit d.payupDailyLimit
  payupEnabled := col l.payupEnabled c.payupEnabled d.payupEnabled
  transferActivityEmailEnabled :=
    col l.transferActivityEmailEnabled c.transferActivityEmailEnabled d.transferActivityEmailEnabled
  localTransferDailyLimit :=
    col l.localTransferDailyLimit c.localTransferDailyLimit d.localTransferDailyLimit
  isFrozen := col l.isFrozen c.isFrozen d.isFrozen
  securityLockedAt := col l.securityLockedAt c.securityLockedAt d.securityLockedAt
  securityLockReason := col l.securityLockReason c.securityLockReason d.securityLockReason

def Payee.merge (l c d : Payee) : Payee where
  userId := col l.userId c.userId d.userId
  accountNumber := col l.accountNumber c.accountNumber d.accountNumber
  createdAt := col l.createdAt c.createdAt d.createdAt

def PendingTransfer.merge (l c d : PendingTransfer) : PendingTransfer where
  userId := col l.userId c.userId d.userId
  payeeId := col l.payeeId c.payeeId d.payeeId
  amount := col l.amount c.amount d.amount
  reference := col l.reference c.reference d.reference
  expiresAt := col l.expiresAt c.expiresAt d.expiresAt
  consumedAt := col l.consumedAt c.consumedAt d.consumedAt
  consumedTransactionRef :=
    col l.consumedTransactionRef c.consumedTransactionRef d.consumedTransactionRef

def PayupPendingTransfer.merge (l c d : PayupPendingTransfer) : PayupPendingTransfer where
  userId := col l.userId c.userId d.userId
  recipientUserId := col l.recipientUserId c.recipientUserId d.recipientUserId
  amount := col l.amount c.amount d.amount
  reference := col l.reference c.reference d.reference
  expiresAt := col l.expiresAt c.expiresAt d.expiresAt
  consumedAt := col l.consumedAt c.consumedAt d.consumedAt
  consumedTransactionRef :=
    col l.consumedTransactionRef c.consumedTransactionRef d.consumedTransactionRef

def TopUpApprovalRequest.merge (l c d : TopUpApprovalRequest) : TopUpApprovalRequest where
  verifierHmac := col l.verifierHmac c.verifierHmac d.verifierHmac
  userId := col l.userId c.userId d.userId
  amount := col l.amount c.amount d.amount
  status := col l.status c.status d.status
  failureCount := col l.failureCount c.failureCount d.failureCount
  expiresAt := col l.expiresAt c.expiresAt d.expiresAt
  approvedAt := col l.approvedAt c.approvedAt d.approvedAt
  creditRef := col l.creditRef c.creditRef d.creditRef

def mergeRow : ∀ k : Key, Row k → Row k → Row k → Row k
  | .user _ => User.merge
  | .payee _ => Payee.merge
  | .pending _ => PendingTransfer.merge
  | .payupPending _ => PayupPendingTransfer.merge
  | .topup _ => TopUpApprovalRequest.merge

/-- The `CHECK` constraints and column lengths. -/
def rowOk : ∀ k : Key, Row k → Bool
  | .user _, r => 0 ≤ r.balance &&
      (dailyLimitMin ≤ r.payupDailyLimit && r.payupDailyLimit ≤ dailyLimitMax) &&
      (dailyLimitMin ≤ r.localTransferDailyLimit && r.localTransferDailyLimit ≤ dailyLimitMax)
  | .payee _, _ => true
  | .pending _, r => r.reference.length ≤ 128
  | .payupPending _, r => r.reference.length ≤ 128
  | .topup _, r => withinBounds r.amount

def transactionRefs (log : List Ledger) : List String :=
  log.filterMap fun
    | .transaction txn _ _ => some txn.transactionRef
    | _ => none

def topUpCreditRefs (log : List Ledger) : List String :=
  log.filterMap fun
    | .topUpCredit credit _ => some credit.creditRef
    | _ => none

def entryOk : Ledger → Bool
  | .transaction txn _ _ => 0 < txn.amount
  | .topUpCredit credit _ => withinBounds credit.amount
  | .registrationCredit credit => credit.amount = 10000

def insOk (log new : List Ledger) : Bool :=
  new.all entryOk && (transactionRefs (log ++ new)).Nodup && (topUpCreditRefs (log ++ new)).Nodup

/-- The relationships with `lazy="selectin"`: a user brings its payees, its
unconfirmed transfers and its top-up requests, and a payee the transfers to it. -/
def brings (row : ∀ k, Option (Row k)) : Key → Key → Bool
  | .user id, .payee payee => (row (.payee payee)).any fun r => r.userId = id
  | .user id, .pending token => (row (.pending token)).any fun r =>
      r.userId = id || (row (.payee r.payeeId)).any fun payee => payee.userId = id
  | .user id, .payupPending token => (row (.payupPending token)).any fun r => r.userId = id
  | .user id, .topup selector => (row (.topup selector)).any fun r => r.userId = id
  | .payee id, .pending token => (row (.pending token)).any fun r => r.payeeId = id
  | _, _ => false

/-- The parts of the transfer code that the statements about failures tell
apart: the checks, the writes up to the end of the required audit row, the
second commit with the arguments of a notification, a notification itself, and
the end of the request. `rereads` is a top-up request that is read again after a
commit or a rollback, and not tested again: its status at the test, and now. -/
inductive Point
  | validating
  | ledger
  | boundary
  | notifying
  | saving
  | rereads (tested found : ApprovalStatus)
  deriving DecidableEq, Repr

abbrev bank : Schema where
  Key := Key
  Row := Row
  Ins := Ledger
  Point := Point
  decEq := inferInstance
  merge := mergeRow
  rowOk := rowOk
  insOk := insOk
  brings := brings

/-! ### Configuration and errors -/

/-- The settings the code reads, the keyed hashes it finds rows with, and the
ids in use in the `users` table, in the order a query returns them. -/
structure Config where
  payeeCooldownSeconds : ℤ
  payupQuickTransferCap : ℤ
  payupQuickDailyCap : ℤ
  payupQuickSessionMaxAgeSeconds : ℤ
  localTransferTokenVerifier : String → String
  payupTransferTokenVerifier : String → String
  topupTokenHmac : String → String
  userIds : List ℕ

/-- Steps outside the database that can raise. -/
inductive Site
  | auditReference
  | auditHash
  | signing
  | email
  | mfaSecret
  deriving DecidableEq, Repr

inductive Err
  | auth (message : String) (status : ℕ)
  | auditWrite
  | runtime (site : Site)
  deriving DecidableEq, Repr

abbrev BankReq (α : Type) := Req bank Err α

abbrev BankWorld := World bank

abbrev BankDb := Db bank

end SitBank.Banking
