import SitBank.Banking.Accounts

/-!
Self-service top-ups: the approval requests of `app/banking/topup_tokens.py`,
`credit_account_topup`, and the three routes that read or write a request.
-/

namespace SitBank.Banking

open SitBank.Interaction SitBank.Orm SitBank.Python

abbrev loadTopUpRequest (selector : String) : BankReq TopUpApprovalRequest :=
  load (S := bank) (Key.topup selector)

abbrev assignTopUpRequest (selector : String)
    (f : TopUpApprovalRequest → TopUpApprovalRequest) : BankReq Unit :=
  assign (S := bank) (Key.topup selector) f

/-! ### Finding a request -/

def topUpRequest (selector : String) (db : BankDb) : Option Key :=
  if (db.row (.topup selector)).isSome then some (.topup selector) else none

def topupRequestBySelector (selector : String) (lock : Bool) : BankReq (Option Key) :=
  if lock then lockWhere (topUpRequest selector) else select (topUpRequest selector)

def lazilyExpire (selector : String) : BankReq Unit := do
  let r ← loadTopUpRequest selector
  let t ← now
  if r.status = .pending ∧ r.expiresAt ≤ t then
    assignTopUpRequest selector fun r => { r with status := .expired }
    commit
  else pure ()

/-- The selector and the verifier of a scanned token. -/
def splitTopupToken (rawToken : String) : Option (String × String) :=
  match partition '.' rawToken with
  | none => none
  | some (selector, verifier) =>
      if selector.isEmpty || verifier.isEmpty || 64 < selector.length || 128 < verifier.length
      then none else some (selector, verifier)

/-- The request as it was found, with its selector. -/
def loadTopupRequestForApproval (cfg : Config) (rawToken : String) (lock : Bool) :
    BankReq (Option (String × TopUpApprovalRequest)) :=
  match splitTopupToken rawToken with
  | none => pure none
  | some (selector, verifier) => do
      let found ← topupRequestBySelector selector lock
      if found.isNone then pure none
      else
        let r ← loadTopUpRequest selector
        if r.verifierHmac ≠ cfg.topupTokenHmac verifier then pure none
        else
          lazilyExpire selector
          let r ← loadTopUpRequest selector
          pure (if r.status = .pending then some (selector, r) else none)

def loadTopupRequestForOwner (selector : String) (user : ℕ) : BankReq (Option ApprovalStatus) := do
  let found ← topupRequestBySelector selector false
  if found.isNone then pure none
  else
    let r ← loadTopUpRequest selector
    if r.userId ≠ user then pure none
    else
      lazilyExpire selector
      let r ← loadTopUpRequest selector
      pure (some r.status)

/-! ### Crediting -/

/-- `credit_account_topup`; the result is the reference of the credit. The
request is named for the ledger entry only. -/
def creditAccountTopup (user : ℕ) (amount : ℤ) (request : String) : BankReq String := do
  let _ ← loadUser user
  lockRows [Key.user user]
  let u ← loadUser user
  ensureAccountNotFrozen u "account top-up"
  let creditRef ← uuid4
  let createdAt ← now
  check (.runtime .signing)
  check (.runtime .signing)
  setBalance user (u.balance + amount)
  add (.topUpCredit ⟨creditRef, user, amount, createdAt⟩ request)
  add (.transaction ⟨creditRef, user, user, none, amount, "", .completed, .topup, createdAt⟩
    none true)
  auditReference
  auditEventRequired (some user)
  pure creditRef

def topupApprovalMaxFailures : ℕ := 5

def topupOwnerIsEligible (u : User) : Bool :=
  u.accountType = .customer && u.accountStatus = .active && !u.isFrozen &&
    (u.securityLockReason.getD "").isEmpty

/-- `status = "failed"`, committed. The rollback has expired the instance, so the
column is written whatever the row holds. -/
def failTopUpRequest (selector : String) (tested : ApprovalStatus) : BankReq Unit := do
  lockRows [Key.topup selector]
  let r ← loadTopUpRequest selector
  mark (.rereads tested r.status)
  assignTopUpRequest selector fun r => { r with status := .failed }
  commit

/-- The branch for a wrong code. The check committed, so the request is read
again and is no longer locked. -/
def countWrongCode (selector : String) (tested : ApprovalStatus) (user : ℕ) : BankReq Unit := do
  let r ← loadTopUpRequest selector
  assignTopUpRequest selector fun r => { r with failureCount := r.failureCount + 1 }
  if r.failureCount + 1 ≥ topupApprovalMaxFailures then
    mark (.rereads tested r.status)
    assignTopUpRequest selector fun r => { r with status := .failed }
    commit
    auditEvent (some user)
  else
    commit
    let _ ← loadTopUpRequest selector
    auditEvent (some user)

/-- The credit and the completion of the request, in one transaction. -/
def completeTopUp (selector : String) (user : ℕ) : BankReq Unit := do
  auditEventRequired (some user)
  let r ← loadTopUpRequest selector
  let creditRef ← creditAccountTopup user r.amount selector
  let approvedAt ← now
  assignTopUpRequest selector fun r =>
    { r with status := .completed, approvedAt := some approvedAt, creditRef := some creditRef }
  commit

def sendTopupDepositNotification (user : ℕ) : BankReq Unit :=
  safeSendNotification (sendTransferNotification user)

/-- The approval with a correct code. -/
def approveTopUp (cfg : Config) (rawToken : String) (user : ℕ) : BankReq Unit := do
  match ← loadTopupRequestForApproval cfg rawToken true with
  | none => pure ()
  | some (selector, request) =>
      let completed ← (Prog.bind (completeTopUp selector user) fun _ => pure true).tryCatch fun
        | .app (.auth _ _) => do
            rollback
            failTopUpRequest selector request.status
            pure false
        | _ => do
            rollback
            let _ ← loadTopUpRequest selector
            pure false
      if completed then
        let _ ← loadTopUpRequest selector
        sendTopupDepositNotification user
      else pure ()

def topupApproveSubmit (cfg : Config) (rawToken : String) : BankReq Unit := do
  match ← loadTopupRequestForApproval cfg rawToken true with
  | none => pure ()
  | some (selector, request) =>
      let formValid ← ask
      if !formValid then pure ()
      else
        let r ← loadTopUpRequest selector
        let user := r.userId
        let u ← loadUser user
        if !topupOwnerIsEligible u then
          assignTopUpRequest selector fun r => { r with status := .failed }
          auditEvent (some user)
          commit
        else
          let verified ← (Prog.bind (verifyTotpForUser user) fun b => pure (some b)).tryCatch fun
            | .app (.auth _ _) => pure none
            | e => .raise e
          match verified with
          | none => pure ()
          | some false => countWrongCode selector request.status user
          | some true => approveTopUp cfg rawToken user

/-! ### Pages -/

def topupApprove (cfg : Config) (rawToken : String) : BankReq Unit := do
  let _ ← loadTopupRequestForApproval cfg rawToken false
  pure ()

def topupStatus (selector : String) (user : ℕ) : BankReq Unit := do
  let _ ← loadTopupRequestForOwner selector user
  pure ()

end SitBank.Banking
