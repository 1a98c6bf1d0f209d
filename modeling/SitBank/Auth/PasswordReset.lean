import SitBank.Interaction.Call
import SitBank.Python.Text

/-!
Customer password reset (`app/auth/password_reset.py`), with the parts of MFA
enrolment (`app/auth/services.py`), recovery codes (`app/auth/recovery_codes.py`)
and clean-up (`app/security/state_cleanup.py`) that change what it reads.

Requests run one at a time, each at one reading of the clock, and a request ends
where it returns or raises. What comes from outside a request (random texts, the
outcome of a code or of a password check, a limit that was reached, an audit row
that cannot be written) is in its `ResetInputs`. Calls of `audit_event` never
raise and write nothing that is read here, so they are left out; so are the
password itself, e-mails and counters.

`history` is not part of the code. It notes when a transaction was created and
when a code was verified.
-/

namespace SitBank.Auth

open SitBank.Interaction SitBank.Python

/-! ### Rows -/

inductive UserType
  | customer
  | staff
  | admin
  | rootAdmin
  deriving DecidableEq, Repr

/-- The columns of `users` that the reset reads. -/
structure ResetUser where
  id : ℕ
  accountType : UserType
  username : String
  email : String
  isFrozen : Bool
  securityLockedAt : Option ℕ
  mfaEnabled : Bool
  deriving DecidableEq, Repr

/-- Rows of purpose `totp_recovery`. -/
structure RecoveryCode where
  userId : ℕ
  codeHmac : String
  hmacVersion : ℕ
  usedAt : Option ℕ
  deriving DecidableEq, Repr

structure PasswordResetToken where
  id : ℕ
  selector : String
  verifierHmac : String
  userId : ℕ
  purpose : String
  expiresAt : ℕ
  usedAt : Option ℕ
  exchangedAt : Option ℕ
  deriving DecidableEq, Repr

/-- `RESET_MFA_NONE`, `RESET_MFA_TOTP` and `RESET_MFA_RECOVERY_CODE`. -/
inductive ResetMfa
  | none
  | totp
  | recoveryCode
  deriving DecidableEq, Repr

/-- What a transaction and its row have in common. -/
structure TransactionFields where
  tokenId : ℕ
  userId : ℕ
  purpose : String
  mfaRequired : ResetMfa
  availableMfaMethods : List ResetMfa
  preferredMfaMethod : Option ResetMfa
  defaultMfaMethod : Option ResetMfa
  mfaVerified : Bool
  recoveryCodeVerified : Bool
  noMfaUser : Bool
  failureCount : ℕ
  lastFailureReason : Option String
  mfaVerifiedAt : Option ℕ
  deriving DecidableEq, Repr

/-- The dictionary that the functions of the reset pass around. -/
structure Transaction extends TransactionFields where
  transactionId : String
  expiresAt : Option ℕ
  deriving DecidableEq, Repr

structure PasswordResetTransaction extends TransactionFields where
  transactionLookupHash : String
  expiresAt : ℕ
  usedAt : Option ℕ
  deriving DecidableEq, Repr

inductive ResetEvent
  /-- A transaction was created for a token, when the user had MFA enabled or not. -/
  | created (tokenId userId : ℕ) (mfaEnabled : Bool)
  /-- A code of the user was verified in the transaction. -/
  | verified (tokenId userId : ℕ) (factor : ResetMfa)
  deriving DecidableEq, Repr

/-- The clock counts microseconds; `sessions` is the transaction id in the
session of each browser. -/
structure ResetWorld where
  clock : ℕ
  users : List ResetUser
  recoveryCodes : List RecoveryCode
  tokens : List PasswordResetToken
  nextTokenId : ℕ
  transactions : List PasswordResetTransaction
  sessions : ℕ → Option String
  history : List ResetEvent

structure ResetConfig where
  passwordResetEnabled : Bool
  passwordResetTokenTtlSeconds : ℕ
  passwordResetTransactionTtlSeconds : ℕ
  /-- `active_hmac_hex(text, length=64)`. -/
  activeHmacHex : String → String
  casefold : String → String
  /-- SQL `lower`. -/
  lower : String → String
  isAlnum : Char → Bool
  isDigit : Char → Bool

inductive TotpOutcome
  | valid
  | replay
  | invalid
  | raises
  deriving DecidableEq, Repr

/-- What reaches one request from outside. -/
structure ResetInputs where
  /-- `secrets.token_urlsafe`. -/
  selector : String
  verifier : String
  transactionId : String
  rateLimited : Bool
  backoff : Bool
  /-- `audit_event_required` raises. -/
  auditFails : Bool
  /-- What the request left unfinished is committed with its browser session. -/
  leftoversCommitted : Bool
  totpOutcome : TotpOutcome
  passwordReused : Bool
  passwordPolicyRejects : Bool
  /-- `_require_active_pending_mfa_setup` or `_pending_mfa_replacement_secret` finds
  a pending secret. -/
  mfaPending : Bool
  recoveryCodes : List String

inductive ResetError
  | auth (message : String) (status : ℕ)
  | auditWrite
  | integrity
  | multipleResults
  deriving DecidableEq, Repr

abbrev ResetCall (α : Type) := Call ResetWorld ResetError α

def genericResetError : ResetError :=
  .auth "That reset link is no longer valid. Please request a new one from the login page." 401

def resetTransactionExpiredError : ResetError := .auth "Password reset transaction expired" 401

def genericAuthenticationCodeError (status : ℕ) : ResetError :=
  .auth "Invalid authentication code." status

def genericVerificationMethodError : ResetError := .auth "Invalid verification method." 400

def tooManyAttempts : ResetError := .auth "Too many attempts. Please try again later." 429

/-! ### Users and methods -/

def normalize (cfg : ResetConfig) (value : String) : String :=
  cfg.casefold (String.ofList (strip value.toList))

/-- `scalar_one_or_none`. -/
def scalarOneOrNone {α : Type} : List α → ResetCall (Option α)
  | [] => pure none
  | [a] => pure (some a)
  | _ => throw .multipleResults

def findCustomerUser (cfg : ResetConfig) (identifier : String) : ResetCall (Option ResetUser) := do
  let normalized := normalize cfg identifier
  let w ← get
  if normalized = "" then pure none
  else scalarOneOrNone (w.users.filter fun u =>
    (cfg.lower u.username = normalized || cfg.lower u.email = normalized) &&
      u.accountType = .customer)

/-- `email.partition("@")`. -/
def emailParts (email : String) : String × String := (partition '@' email).getD (email, "")

def isAdminLikeUser (cfg : ResetConfig) (user : ResetUser) : Bool :=
  let adminNames := ["admin", "administrator", "root", "superuser"]
  let parts := emailParts (normalize cfg user.email)
  user.accountType ≠ .customer || adminNames.contains (normalize cfg user.username) ||
    adminNames.contains parts.1 || "admin.".toList.isPrefixOf parts.2.toList

def accountResetBlocked (user : ResetUser) : Bool :=
  user.isFrozen || user.securityLockedAt.isSome

/-- Neither an administrator nor blocked. -/
def mayReset (cfg : ResetConfig) (user : ResetUser) : Bool :=
  !isAdminLikeUser cfg user && !accountResetBlocked user

def unusedRecoveryCodeCount (user : ResetUser) (w : ResetWorld) : ℕ :=
  (w.recoveryCodes.filter fun c =>
    c.userId = user.id && c.usedAt.isNone && 2 ≤ c.hmacVersion).length

def availableResetMfaMethodsForUser (user : ResetUser) (w : ResetWorld) : List ResetMfa :=
  if user.mfaEnabled then
    if 0 < unusedRecoveryCodeCount user w then [.totp, .recoveryCode] else [.totp]
  else []

def fallbackResetMfaMethod (availableMethods : List ResetMfa) : ResetMfa :=
  if .totp ∈ availableMethods then .totp else .none

/-- `RESET_MFA_METHOD_ALIASES`. -/
def resetMfaMethodAliases : List (String × ResetMfa) :=
  [("authenticator", .totp), ("totp", .totp), ("recovery", .recoveryCode),
    ("recovery_code", .recoveryCode)]

def normalizeResetMfaMethod (cfg : ResetConfig) (value : String) : ResetCall ResetMfa :=
  match resetMfaMethodAliases.lookup (normalize cfg value) with
  | some method => pure method
  | none => throw genericVerificationMethodError

/-! ### Transactions -/

def transactionLookupHash (cfg : ResetConfig) (transactionId : String) : String :=
  cfg.activeHmacHex ("password-reset-transaction:" ++ transactionId)

def recordOf (cfg : ResetConfig) (transactionId : String) (w : ResetWorld) :
    Option PasswordResetTransaction :=
  w.transactions.find? fun r => r.transactionLookupHash = transactionLookupHash cfg transactionId

/-- The row that `_store_transaction` writes. -/
def storedRow (cfg : ResetConfig) (transaction : Transaction) (now : ℕ) :
    PasswordResetTransaction where
  toTransactionFields := transaction.toTransactionFields
  transactionLookupHash := transactionLookupHash cfg transaction.transactionId
  expiresAt := now + cfg.passwordResetTransactionTtlSeconds * 1000000
  usedAt := none

/-- Insert a row, or write it over the one with its lookup hash. -/
def upsert (row : PasswordResetTransaction) (rows : List PasswordResetTransaction) :
    List PasswordResetTransaction :=
  if rows.any (·.transactionLookupHash = row.transactionLookupHash) then
    rows.map fun r => if r.transactionLookupHash = row.transactionLookupHash then row else r
  else rows ++ [row]

def storeTransaction (cfg : ResetConfig) (transaction : Transaction) : ResetCall Unit :=
  modify fun w =>
    { w with transactions := upsert (storedRow cfg transaction w.clock) w.transactions }

def deleteTransactionId (cfg : ResetConfig) (transactionId : String) : ResetCall Unit :=
  modify fun w => { w with transactions := w.transactions.filter fun r =>
    r.transactionLookupHash ≠ transactionLookupHash cfg transactionId }

def popSession (browser : ℕ) : ResetCall Unit :=
  modify fun w => { w with sessions := fun b => if b = browser then none else w.sessions b }

def resetTransactionId (browser : ℕ) (w : ResetWorld) : String := (w.sessions browser).getD ""

def clearCurrentResetTransaction (cfg : ResetConfig) (browser : ℕ) : ResetCall Unit := do
  let w ← get
  if resetTransactionId browser w = "" then pure ()
  else deleteTransactionId cfg (resetTransactionId browser w)
  popSession browser

def transactionFromRecord (r : PasswordResetTransaction) (transactionId : String) :
    Transaction where
  toTransactionFields := r.toTransactionFields
  transactionId := transactionId
  expiresAt := some (r.expiresAt / 1000000)

/-- The row can be loaded at this time. -/
def loadable (r : PasswordResetTransaction) (now : ℕ) : Bool :=
  r.purpose = "password_reset" && r.usedAt.isNone && now < r.expiresAt

def loadTransaction (cfg : ResetConfig) (browser : ℕ) (transactionId : String) :
    ResetCall Transaction := do
  let w ← get
  match recordOf cfg transactionId w with
  | none =>
      clearCurrentResetTransaction cfg browser
      throw resetTransactionExpiredError
  | some record =>
      if loadable record w.clock then pure (transactionFromRecord record transactionId)
      else
        deleteTransactionId cfg transactionId
        throw resetTransactionExpiredError

def loadCurrentTransaction (cfg : ResetConfig) (browser : ℕ) : ResetCall Transaction := do
  let w ← get
  raiseIf (resetTransactionId browser w = "") (.auth "No active password reset transaction" 401)
  loadTransaction cfg browser (resetTransactionId browser w)

def clearResetTransaction (cfg : ResetConfig) (transaction : Transaction) : ResetCall Unit :=
  if transaction.transactionId = "" then pure ()
  else deleteTransactionId cfg transaction.transactionId

def userById (id : ℕ) (w : ResetWorld) : Option ResetUser := w.users.find? fun u => u.id = id

def transactionUser (cfg : ResetConfig) (transaction : Transaction) : ResetCall ResetUser := do
  let w ← get
  match (userById transaction.userId w).filter (mayReset cfg) with
  | some user => pure user
  | none =>
      clearResetTransaction cfg transaction
      throw resetTransactionExpiredError

def recordTransactionFailure (cfg : ResetConfig) (browser : ℕ) (transaction : Transaction)
    (reason : String) : ResetCall Unit := do
  let failed := { transaction with
    failureCount := transaction.failureCount + 1
    lastFailureReason := some reason }
  if 5 ≤ failed.failureCount then
    clearResetTransaction cfg failed
    popSession browser
    throw resetTransactionExpiredError
  else storeTransaction cfg failed

structure PublicTransaction where
  mfaRequired : ResetMfa
  availableMfaMethods : List ResetMfa
  preferredMfaMethod : Option ResetMfa
  defaultMfaMethod : Option ResetMfa
  mfaVerified : Bool
  recoveryCodeVerified : Bool
  noMfaUser : Bool
  expiresIn : ℕ
  deriving DecidableEq, Repr

/-- `_public_reset_mfa_method`. -/
def publicResetMfaMethod (method : Option ResetMfa) : Option ResetMfa :=
  method.filter fun m => m = .totp || m = .recoveryCode

def publicTransaction (cfg : ResetConfig) (transaction : Transaction) (now : ℕ) :
    PublicTransaction where
  mfaRequired := transaction.mfaRequired
  availableMfaMethods :=
    (transaction.availableMfaMethods.filterMap fun m => publicResetMfaMethod (some m)).eraseDups
  preferredMfaMethod := publicResetMfaMethod transaction.preferredMfaMethod
  defaultMfaMethod := publicResetMfaMethod transaction.defaultMfaMethod
  mfaVerified := transaction.mfaVerified
  recoveryCodeVerified := transaction.recoveryCodeVerified
  noMfaUser := transaction.noMfaUser
  expiresIn :=
    match transaction.expiresAt with
    | some t => t - now / 1000000
    | none => cfg.passwordResetTransactionTtlSeconds

/-! ### Requests -/

/-- A required audit row. When it cannot be written, what the request has changed
since `committed` is dropped, or committed with its browser session. -/
def auditEventRequired (inputs : ResetInputs) (committed : ResetWorld) : ResetCall Unit :=
  if inputs.auditFails then do
    if inputs.leftoversCommitted then pure () else set committed
    throw .auditWrite
  else pure ()

def tokenHmac (cfg : ResetConfig) (verifier : String) : String :=
  cfg.activeHmacHex ("password-reset-token:" ++ verifier)

def createResetToken (cfg : ResetConfig) (inputs : ResetInputs) (user : ResetUser) :
    ResetCall Unit := do
  let w ← get
  raiseIf (w.tokens.any (·.selector = inputs.selector)) .integrity
  modify fun w => { w with
    tokens := w.tokens ++ [
      { id := w.nextTokenId, selector := inputs.selector
        verifierHmac := tokenHmac cfg inputs.verifier, userId := user.id
        purpose := "password_reset"
        expiresAt := w.clock + cfg.passwordResetTokenTtlSeconds * 1000000
        usedAt := none, exchangedAt := none }]
    nextTokenId := w.nextTokenId + 1 }
  auditEventRequired inputs { w with nextTokenId := w.nextTokenId + 1 }

def requestPasswordReset (cfg : ResetConfig) (inputs : ResetInputs) (identifier : String) :
    ResetCall Unit := do
  raiseIf inputs.rateLimited tooManyAttempts
  let user ← findCustomerUser cfg (normalize cfg identifier)
  match user.filter (mayReset cfg) with
  | none => pure ()
  | some user => if cfg.passwordResetEnabled then createResetToken cfg inputs user else pure ()

/-- `_split_reset_token`. -/
def splitResetToken (rawToken : String) : ResetCall (String × String) :=
  match partition '.' rawToken with
  | some (selector, verifier) =>
      if selector = "" || verifier = "" || 64 < selector.length || 128 < verifier.length then
        throw genericResetError
      else pure (selector, verifier)
  | none => throw genericResetError

def exchangeable (cfg : ResetConfig) (token : PasswordResetToken) (verifier : String) (now : ℕ)
    (user : Option ResetUser) : Bool :=
  user.any (mayReset cfg) && token.purpose = "password_reset" && token.usedAt.isNone &&
    token.exchangedAt.isNone && now < token.expiresAt &&
    token.verifierHmac = tokenHmac cfg verifier

/-- The dictionary that `_create_reset_transaction` makes. -/
def newTransaction (transactionId : String) (user : ResetUser) (token : PasswordResetToken)
    (availableMethods : List ResetMfa) : Transaction :=
  let mfaRequired := fallbackResetMfaMethod availableMethods
  { transactionId := transactionId, tokenId := token.id, userId := user.id
    purpose := "password_reset", mfaRequired := mfaRequired
    availableMfaMethods := availableMethods
    preferredMfaMethod := if .totp ∈ availableMethods then some .totp else none
    defaultMfaMethod := some mfaRequired, mfaVerified := mfaRequired = .none
    recoveryCodeVerified := false, noMfaUser := mfaRequired = .none, failureCount := 0
    lastFailureReason := none, mfaVerifiedAt := none, expiresAt := none }

def createResetTransaction (cfg : ResetConfig) (inputs : ResetInputs) (user : ResetUser)
    (token : PasswordResetToken) : ResetCall Transaction := do
  let w ← get
  let transaction := newTransaction inputs.transactionId user token
    (availableResetMfaMethodsForUser user w)
  storeTransaction cfg transaction
  modify fun w => { w with history := w.history ++ [.created token.id user.id user.mfaEnabled] }
  pure transaction

def exchangeResetToken (cfg : ResetConfig) (inputs : ResetInputs) (browser : ℕ)
    (rawToken : String) : ResetCall PublicTransaction := do
  let (selector, verifier) ← splitResetToken rawToken
  let w ← get
  match w.tokens.find? (·.selector = selector) with
  | none => throw genericResetError
  | some token =>
      match (userById token.userId w).filter
          (fun u => exchangeable cfg token verifier w.clock (some u)) with
      | none => throw genericResetError
      | some user =>
          modify fun w => { w with tokens := w.tokens.map fun t =>
            if t.id = token.id then { t with exchangedAt := some w.clock } else t }
          let transaction ← createResetTransaction cfg inputs user token
          modify fun w => { w with sessions := fun b =>
            if b = browser then some transaction.transactionId else w.sessions b }
          pure (publicTransaction cfg transaction w.clock)

def currentResetTransaction (cfg : ResetConfig) (browser : ℕ) : ResetCall PublicTransaction := do
  let transaction ← loadCurrentTransaction cfg browser
  let w ← get
  pure (publicTransaction cfg transaction w.clock)

def selectResetMfaMethod (cfg : ResetConfig) (browser : ℕ) (method : String) :
    ResetCall PublicTransaction := do
  let transaction ← loadCurrentTransaction cfg browser
  let user ← transactionUser cfg transaction
  let selected ← normalizeResetMfaMethod cfg method
  let w ← get
  let availableMethods := availableResetMfaMethodsForUser user w
  if selected ∉ availableMethods then
    storeTransaction cfg { transaction with availableMfaMethods := availableMethods }
    throw genericVerificationMethodError
  else if transaction.mfaVerified && transaction.mfaRequired ≠ selected then
    throw genericVerificationMethodError
  else
    let kept := transaction.mfaRequired = selected
    let chosen := { transaction with
      availableMfaMethods := availableMethods
      mfaRequired := selected
      mfaVerified := kept && transaction.mfaVerified
      recoveryCodeVerified := kept && transaction.recoveryCodeVerified }
    storeTransaction cfg chosen
    pure (publicTransaction cfg chosen w.clock)

/-- `_require_selected_reset_mfa_method`; the transaction comes back with the
methods that are available now. -/
def requireSelectedResetMfaMethod (cfg : ResetConfig) (transaction : Transaction)
    (user : ResetUser) (requiredMethod : ResetMfa) : ResetCall Transaction := do
  let w ← get
  let availableMethods := availableResetMfaMethodsForUser user w
  let updated := { transaction with availableMfaMethods := availableMethods }
  if requiredMethod ∉ availableMethods || transaction.mfaRequired ≠ requiredMethod then
    storeTransaction cfg updated
    throw (genericAuthenticationCodeError 400)
  else pure updated

def isTotpCode (cfg : ResetConfig) (code : String) : Bool :=
  code.length = 6 && code.toList.all cfg.isDigit

def failedCode (cfg : ResetConfig) (browser : ℕ) (transaction : Transaction) (reason : String) :
    ResetCall Unit := do
  recordTransactionFailure cfg browser transaction reason
  throw (genericAuthenticationCodeError 401)

def checkResetTotp (cfg : ResetConfig) (inputs : ResetInputs) (browser : ℕ)
    (transaction : Transaction) (code : String) : ResetCall Unit :=
  if !isTotpCode cfg code then failedCode cfg browser transaction "totp_failed"
  else
    match inputs.totpOutcome with
    | .valid => pure ()
    | .replay => throw (genericAuthenticationCodeError 401)
    | .invalid => failedCode cfg browser transaction "totp_failed"
    | .raises => throw tooManyAttempts

def recoveryCodeHmac (cfg : ResetConfig) (userId : ℕ) (code : String) : String :=
  cfg.activeHmacHex ("recovery-code:v2:" ++ toString userId ++ ":totp_recovery:" ++
    String.ofList ((cfg.casefold code).toList.filter cfg.isAlnum))

/-- The row that `consume_recovery_code` selects. -/
def consumable (cfg : ResetConfig) (user : ResetUser) (code : String) (c : RecoveryCode) : Bool :=
  c.userId = user.id && c.usedAt.isNone && 2 ≤ c.hmacVersion &&
    c.codeHmac = recoveryCodeHmac cfg user.id code

def consume (cfg : ResetConfig) (user : ResetUser) (code : String) (now : ℕ)
    (codes : List RecoveryCode) : List RecoveryCode :=
  codes.map fun c => if consumable cfg user code c then { c with usedAt := some now } else c

def checkResetRecoveryCode (cfg : ResetConfig) (inputs : ResetInputs) (browser : ℕ)
    (transaction : Transaction) (user : ResetUser) (code : String) : ResetCall Unit := do
  raiseIf inputs.backoff tooManyAttempts
  let w ← get
  if w.recoveryCodes.any (consumable cfg user code) then
    modify fun w => { w with recoveryCodes := consume cfg user code w.clock w.recoveryCodes }
  else failedCode cfg browser transaction "recovery_code_failed"

def checkResetCode (cfg : ResetConfig) (inputs : ResetInputs) (browser : ℕ)
    (transaction : Transaction) (user : ResetUser) (requiredMethod : ResetMfa) (code : String) :
    ResetCall Unit :=
  if requiredMethod = .totp then checkResetTotp cfg inputs browser transaction code
  else checkResetRecoveryCode cfg inputs browser transaction user code

/-- `_verify_reset_authentication_code`. -/
def verifyResetAuthenticationCode (cfg : ResetConfig) (inputs : ResetInputs) (browser : ℕ)
    (requiredMethod : ResetMfa) (code : String) : ResetCall PublicTransaction := do
  let loaded ← loadCurrentTransaction cfg browser
  let user ← transactionUser cfg loaded
  let transaction ← requireSelectedResetMfaMethod cfg loaded user requiredMethod
  let committed ← get
  checkResetCode cfg inputs browser transaction user requiredMethod code
  auditEventRequired inputs committed
  let w ← get
  let verified := { transaction with
    recoveryCodeVerified := transaction.recoveryCodeVerified || requiredMethod ≠ .totp
    mfaVerified := true
    mfaVerifiedAt := some (w.clock / 1000000) }
  storeTransaction cfg verified
  modify fun w => { w with history :=
    w.history ++ [.verified verified.tokenId verified.userId requiredMethod] }
  pure (publicTransaction cfg verified w.clock)

def verifyResetTotp (cfg : ResetConfig) (inputs : ResetInputs) (browser : ℕ) (code : String) :
    ResetCall PublicTransaction :=
  verifyResetAuthenticationCode cfg inputs browser .totp code

def verifyResetRecoveryCode (cfg : ResetConfig) (inputs : ResetInputs) (browser : ℕ)
    (code : String) : ResetCall PublicTransaction :=
  verifyResetAuthenticationCode cfg inputs browser .recoveryCode code

/-- The tokens of the user that have no `used_at` get one. -/
def useTokens (userId now : ℕ) (tokens : List PasswordResetToken) : List PasswordResetToken :=
  tokens.map fun t =>
    if t.userId = userId && t.usedAt.isNone then { t with usedAt := some now } else t

/-- Returns the transaction that was completed. -/
def completePasswordReset (cfg : ResetConfig) (inputs : ResetInputs) (browser : ℕ)
    (newPassword confirmNewPassword : String) : ResetCall Transaction := do
  let transaction ← loadCurrentTransaction cfg browser
  let user ← transactionUser cfg transaction
  raiseIf (transaction.mfaRequired ≠ .none && !transaction.mfaVerified)
    (.auth "MFA verification is required before resetting the password" 403)
  raiseIf (newPassword ≠ confirmNewPassword) (.auth "Passwords must match" 400)
  raiseIf inputs.passwordReused
    (.auth "New password must not match your current or recent passwords" 400)
  raiseIf inputs.passwordPolicyRejects (.auth "password policy" 400)
  let committed ← get
  modify fun w => { w with tokens := useTokens user.id w.clock w.tokens }
  auditEventRequired inputs committed
  clearResetTransaction cfg transaction
  popSession browser
  pure transaction

/-! ### Other requests -/

def setUser (user : ResetUser) : ResetCall Unit :=
  modify fun w => { w with users := w.users.map fun u => if u.id = user.id then user else u }

/-- The unused codes of the user are spent and new ones added. -/
def regenerated (cfg : ResetConfig) (user : ResetUser) (codes : List String) (now : ℕ)
    (rows : List RecoveryCode) : List RecoveryCode :=
  (rows.map fun c =>
    if c.userId = user.id && c.usedAt.isNone then { c with usedAt := some now } else c) ++
    codes.map fun code => ⟨user.id, recoveryCodeHmac cfg user.id code, 2, none⟩

def generateRecoveryCodesForUser (cfg : ResetConfig) (user : ResetUser) (codes : List String) :
    ResetCall Unit :=
  modify fun w => { w with recoveryCodes := regenerated cfg user codes w.clock w.recoveryCodes }

def enrolMfa (cfg : ResetConfig) (inputs : ResetInputs) (user : ResetUser) : ResetCall Unit := do
  let committed ← get
  setUser { user with mfaEnabled := true }
  generateRecoveryCodesForUser cfg user inputs.recoveryCodes
  auditEventRequired inputs committed

def verifyMfaSetup (cfg : ResetConfig) (inputs : ResetInputs) (userId : ℕ) : ResetCall Unit := do
  let w ← get
  match userById userId w with
  | none => pure ()
  | some user => do
      raiseIf (!inputs.mfaPending) (.auth "MFA setup expired. Start again." 401)
      raiseIf (inputs.totpOutcome ≠ .valid)
        (.auth "Incorrect code. Check your authenticator and try again." 401)
      enrolMfa cfg inputs user

def verifyMfaReplacement (cfg : ResetConfig) (inputs : ResetInputs) (userId : ℕ) :
    ResetCall Unit := do
  let w ← get
  match userById userId w with
  | none => pure ()
  | some user => do
      raiseIf (accountResetBlocked user) (.auth "Account is frozen; MFA replacement is blocked" 403)
      raiseIf (!user.mfaEnabled) (.auth "MFA is not enabled" 403)
      raiseIf (!inputs.mfaPending) (.auth "No pending MFA replacement" 401)
      raiseIf (inputs.totpOutcome ≠ .valid)
        (.auth "Incorrect code. Check your authenticator and try again." 401)
      enrolMfa cfg inputs user

/-- The first `limit` rows that satisfy the condition are deleted. -/
def deleteRows {α : Type} (p : α → Bool) : ℕ → List α → List α
  | 0, rows => rows
  | _, [] => []
  | limit + 1, r :: rows =>
      if p r then deleteRows p limit rows else r :: deleteRows p (limit + 1) rows

/-- The part of the clean-up that concerns the reset. -/
def cleanupSecurityState (limit : ℕ) (w : ResetWorld) : ResetWorld :=
  let transactions := deleteRows (fun r => r.expiresAt ≤ w.clock) limit w.transactions
  let unreferenced := fun t : PasswordResetToken =>
    t.expiresAt ≤ w.clock && transactions.all (·.tokenId ≠ t.id)
  { w with transactions := transactions, tokens := deleteRows unreferenced limit w.tokens }

inductive ResetOp
  | requestPasswordReset (inputs : ResetInputs) (identifier : String)
  | exchangeResetToken (inputs : ResetInputs) (browser : ℕ) (rawToken : String)
  | currentResetTransaction (browser : ℕ)
  | selectResetMfaMethod (browser : ℕ) (method : String)
  | verifyResetTotp (inputs : ResetInputs) (browser : ℕ) (code : String)
  | verifyResetRecoveryCode (inputs : ResetInputs) (browser : ℕ) (code : String)
  | completePasswordReset (inputs : ResetInputs) (browser : ℕ)
      (newPassword confirmNewPassword : String)
  | verifyMfaSetup (inputs : ResetInputs) (userId : ℕ)
  | verifyMfaReplacement (inputs : ResetInputs) (userId : ℕ)
  | cleanup (limit : ℕ)
  /-- What other requests do to accounts and recovery codes: registration, manual
  recovery, freezing, locking, unlocking, and whatever else writes them. -/
  | accounts (users : List ResetUser) (recoveryCodes : List RecoveryCode)
  /-- The session of the browser is cleared by another request, or expires. -/
  | endSession (browser : ℕ)
  | wait (microseconds : ℕ)

def ResetOp.call (cfg : ResetConfig) : ResetOp → ResetCall Unit
  | .requestPasswordReset inputs identifier => Auth.requestPasswordReset cfg inputs identifier
  | .exchangeResetToken inputs browser rawToken =>
      discard (Auth.exchangeResetToken cfg inputs browser rawToken)
  | .currentResetTransaction browser => discard (Auth.currentResetTransaction cfg browser)
  | .selectResetMfaMethod browser method => discard (Auth.selectResetMfaMethod cfg browser method)
  | .verifyResetTotp inputs browser code => discard (Auth.verifyResetTotp cfg inputs browser code)
  | .verifyResetRecoveryCode inputs browser code =>
      discard (Auth.verifyResetRecoveryCode cfg inputs browser code)
  | .completePasswordReset inputs browser newPassword confirmNewPassword =>
      discard (Auth.completePasswordReset cfg inputs browser newPassword confirmNewPassword)
  | .verifyMfaSetup inputs userId => Auth.verifyMfaSetup cfg inputs userId
  | .verifyMfaReplacement inputs userId => Auth.verifyMfaReplacement cfg inputs userId
  | .cleanup limit => modify (cleanupSecurityState limit)
  | .accounts users recoveryCodes =>
      modify fun w => { w with users := users, recoveryCodes := recoveryCodes }
  | .endSession browser => popSession browser
  | .wait microseconds => modify fun w => { w with clock := w.clock + microseconds }

end SitBank.Auth
