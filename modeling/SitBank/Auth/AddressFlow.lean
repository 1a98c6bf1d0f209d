import SitBank.Auth.EmailIdentities
import SitBank.Interaction.Handlers
import SitBank.Interaction.RowLock

/-!
How a customer comes by an e-mail address: registration (`app/auth/registration_otp.py` and
`register_user` in `app/auth/services.py`) and the change of the address in the profile.

Requests of any number of browsers run interleaved, each with a copy of its session. Texts of
the session that are not set are empty, as `str(session.get(key) or "")` makes them. Whatever
depends on nothing else of this model is a question with any answer: limits, forms, passwords,
step-ups, the delivery of mail, audit events. Each statement of the database may fail.

The history is not part of the program. `note` writes into it what has just happened.
-/

namespace SitBank.Auth.Addresses

open SitBank.Interaction SitBank.Python SitBank.Auth.Emails

/-! ### Settings -/

/-- `active_hmac_hex`, and the texts of `secrets.token_urlsafe`: the n-th one is `token n`. Of
the HMAC it is used that it has no collisions, of the tokens that they do not repeat. -/
structure Secrets where
  hex : PyStr → PyStr
  hex_injective : Function.Injective hex
  hex_ne_nil : ∀ s, hex s ≠ []
  token : ℕ → PyStr
  token_injective : Function.Injective token
  token_ne_nil : ∀ n, token n ≠ []
  token_plain : ∀ n, 58 ∉ token n

/-- `_config_set` of the lists of `identity_policy.py`. -/
structure Policy where
  identity : IdentityConfig
  rootAdminEmails : List PyStr
  adminAllowedEmailDomains : List PyStr
  customerTempEmailDomains : List PyStr

structure Config where
  folding : CaseFolding
  lower : PyStr → PyStr
  /-- `lower` of the database. -/
  sqlLower : PyStr → PyStr
  policy : Policy
  secrets : Secrets
  profileEmailChangeTtlSeconds : ℕ

/-- `REGISTRATION_OTP_TTL_SECONDS`. -/
def registrationOtpTtlSeconds : ℕ := 5 * 60

/-- `REGISTRATION_OTP_RESEND_COOLDOWN_SECONDS`. -/
def registrationOtpResendCooldownSeconds : ℕ := 60

/-- `REGISTRATION_OTP_MAX_ATTEMPTS`. -/
def registrationOtpMaxAttempts : ℕ := 5

/-! ### Data -/

/-- `RegistrationOtpChallenge`; times are in microseconds. -/
structure Challenge where
  id : ℕ
  sessionBindingHash : PyStr
  emailHash : PyStr
  otpHmac : PyStr
  attemptCount : ℕ
  resendAvailableAt : ℕ
  expiresAt : ℕ
  deriving DecidableEq

/-- The columns of a `User` that identify. -/
structure User where
  id : ℕ
  customer : Bool
  username : PyStr
  email : PyStr
  registrationEmailCanonical : Option PyStr
  phoneNumber : Option PyStr
  accountNumber : Option PyStr
  deriving DecidableEq

structure Items where
  /-- `session.sid`, which is not an entry. -/
  sid : PyStr
  userId : Option ℕ
  registrationOtpSessionRef : PyStr
  registrationOtpPendingEmail : PyStr
  registrationOtpVerifiedEmail : PyStr
  registrationOtpVerifiedAt : ℕ
  profileEmailPendingEmail : PyStr
  profileEmailPendingPhoneHmac : PyStr
  profileEmailPendingCodeHmac : PyStr
  profileEmailPendingExpiresAt : ℕ
  deriving DecidableEq

def Items.empty (sid : PyStr) : Items := ⟨sid, none, [], [], [], 0, [], [], [], 0⟩

/-- What a random text is used for. -/
inductive TokenUse
  | sessionId
  | reference
  deriving DecidableEq

/-- `account` is the customer whose address is to be changed, none for a registration. Times
are in microseconds. -/
inductive Event
  | issued (browser : ℕ) (use : TokenUse) (text : PyStr)
  | stored (challenge : ℕ) (sessionBindingHash emailHash : PyStr)
  /-- A code was drawn, to be sent to `email`. -/
  | drawn (browser : ℕ) (account : Option ℕ) (email code : PyStr) (at_ : ℕ)
  /-- The code that was drawn is the one of the challenge that it is to replace. -/
  | redrawn (browser : ℕ) (email code : PyStr) (at_ : ℕ)
  /-- The code was found right when it was entered. -/
  | entered (browser : ℕ) (account : Option ℕ) (email code : PyStr) (checkedAt acceptedAt : ℕ)
  /-- The verified address was found valid for a registration. -/
  | admitted (browser : ℕ) (email : PyStr) (at_ : ℕ)
  deriving DecidableEq

structure Registry where
  clock : ℕ
  challenges : List Challenge
  users : List User
  nextChallenge : ℕ
  nextUser : ℕ
  nextToken : ℕ
  history : List Event

instance : Preorder Registry := laterBy Registry.clock Registry.history

inductive FlowError
  /-- `RegistrationOtpError` and `AuthError`, with the status. -/
  | otp (status : ℕ)
  | auth (status : ℕ)
  | identity (e : IdentityPolicyError)
  | auditWrite
  | integrity
  | staleData
  | objectDeleted
  | multipleResults
  | operational
  deriving DecidableEq

inductive Question
  | rateLimited
  | formValid
  | mailSent
  | passwordsMatch
  | passwordAllowed
  | creditSigned
  | auditWritten
  | accountUsable
  | stepUp
  | codeGiven
  deriving DecidableEq

inductive Op
  | ask (q : Question)
  | time
  | randbelow (bound : ℕ)
  | accountDigits
  | issue (browser : ℕ) (use : TokenUse)
  | note (e : Event)
  | selectChallenge (sessionBindingHash emailHash : PyStr)
  | insertChallenge (sessionBindingHash emailHash otpHmac : PyStr)
      (resendAvailableAt expiresAt : ℕ)
  | reissueChallenge (seen : Challenge) (otpHmac : PyStr) (resendAvailableAt expiresAt : ℕ)
  | countAttempt (seen : Challenge) (attempts : ℕ)
  | deleteChallenge (seen : Challenge)
  | deleteExpired (now : ℕ)
  | selectUsers (p : User → Bool)
  | insertUser (u : User)
  | updateUser (seen : User) (email canonical phone : Option PyStr)

def Res : Op → Type
  | .ask _ => Bool
  | .time => ℕ
  | .randbelow _ => ℕ
  | .accountDigits => PyStr
  | .issue _ _ => PyStr
  | .selectChallenge _ _ => Option Challenge
  | .insertChallenge _ _ _ _ _ => Challenge
  | .selectUsers _ => List User
  | .insertUser _ => ℕ
  | _ => Unit

/-- What the program cannot decide: answers, random numbers, failures, and how long it takes. -/
structure Choice where
  yes : Bool
  number : ℕ
  text : PyStr
  fail : Bool
  tick : ℕ

/-! ### Statements -/

/-- Both have a value, and it is the same. -/
def sameValue (a b : Option PyStr) : Bool := a.isSome && a = b

/-- The unique indexes of `users`. -/
def clashes (cfg : Config) (u v : User) : Bool :=
  cfg.sqlLower u.username = cfg.sqlLower v.username ||
    cfg.sqlLower u.email = cfg.sqlLower v.email ||
    sameValue u.registrationEmailCanonical v.registrationEmailCanonical ||
    sameValue u.phoneNumber v.phoneNumber || sameValue u.accountNumber v.accountNumber

/-- `UPDATE` of the columns that are assigned another value than the loaded one. -/
def User.assign (seen : User) (email canonical phone : Option PyStr) (u : User) : User :=
  { u with
    email := (email.map fun e => written seen.email e u.email).getD u.email
    registrationEmailCanonical := (canonical.map fun c =>
      written seen.registrationEmailCanonical (some c) u.registrationEmailCanonical).getD
        u.registrationEmailCanonical
    phoneNumber := (phone.map fun p =>
      written seen.phoneNumber (some p) u.phoneNumber).getD u.phoneNumber }

/-- The same, for a new code in place of the one of a challenge. -/
def Challenge.reissue (seen : Challenge) (otpHmac : PyStr) (resendAvailableAt expiresAt : ℕ)
    (r : Challenge) : Challenge :=
  { r with
    otpHmac := written seen.otpHmac otpHmac r.otpHmac
    attemptCount := written seen.attemptCount 0 r.attemptCount
    resendAvailableAt := written seen.resendAvailableAt resendAvailableAt r.resendAvailableAt
    expiresAt := written seen.expiresAt expiresAt r.expiresAt }

namespace Registry

variable (w : Registry)

def insertChallenge (sessionBindingHash emailHash otpHmac : PyStr)
    (resendAvailableAt expiresAt : ℕ) : Except FlowError Challenge × Registry :=
  if w.challenges.any fun r => r.sessionBindingHash = sessionBindingHash &&
      r.emailHash = emailHash then
    (.error .integrity, w)
  else
    let r : Challenge := ⟨w.nextChallenge, sessionBindingHash, emailHash, otpHmac, 0,
      resendAvailableAt, expiresAt⟩
    (.ok r, { w with
      challenges := r :: w.challenges
      nextChallenge := w.nextChallenge + 1
      history := .stored r.id sessionBindingHash emailHash :: w.history })

/-- An `UPDATE` of one row, which it has to find. -/
def updateChallenge (id : ℕ) (f : Challenge → Challenge) : Except FlowError Unit × Registry :=
  if w.challenges.any fun r => r.id = id then
    (.ok (), { w with challenges := w.challenges.map fun r => if r.id = id then f r else r })
  else (.error .staleData, w)

def insertUser (cfg : Config) (u : User) : Except FlowError ℕ × Registry :=
  if w.users.any (clashes cfg u) then (.error .integrity, w)
  else (.ok w.nextUser, { w with
    users := { u with id := w.nextUser } :: w.users
    nextUser := w.nextUser + 1 })

def updateUser (cfg : Config) (seen : User) (email canonical phone : Option PyStr) :
    Except FlowError Unit × Registry :=
  match w.users.find? fun u => u.id = seen.id with
  | none => (.error .staleData, w)
  | some u =>
      let u' := seen.assign email canonical phone u
      if (w.users.filter fun v => v.id ≠ seen.id).any (clashes cfg u') then (.error .integrity, w)
      else (.ok (), { w with users := w.users.map fun v => if v.id = seen.id then u' else v })

end Registry

/-- The statements of the database, which may fail instead. -/
def Op.isStatement : Op → Bool
  | .selectChallenge _ _ => true
  | .insertChallenge _ _ _ _ _ => true
  | .reissueChallenge _ _ _ _ => true
  | .countAttempt _ _ => true
  | .deleteChallenge _ => true
  | .deleteExpired _ => true
  | .selectUsers _ => true
  | .insertUser _ => true
  | .updateUser _ _ _ _ => true
  | _ => false

def act (cfg : Config) (o : Op) (c : Choice) (w : Registry) :
    Except FlowError (Res o) × Registry :=
  match o with
  | .ask _ => (.ok c.yes, w)
  | .time => (.ok w.clock, w)
  | .randbelow bound => (.ok (c.number % bound), w)
  | .accountDigits => (.ok c.text, w)
  | .issue browser use =>
      let text := cfg.secrets.token w.nextToken
      (.ok text, { w with
        nextToken := w.nextToken + 1
        history := .issued browser use text :: w.history })
  | .note e => (.ok (), { w with history := e :: w.history })
  | .selectChallenge sessionBindingHash emailHash =>
      (.ok (w.challenges.find? fun r =>
        r.sessionBindingHash = sessionBindingHash && r.emailHash = emailHash), w)
  | .insertChallenge sessionBindingHash emailHash otpHmac resendAvailableAt expiresAt =>
      w.insertChallenge sessionBindingHash emailHash otpHmac resendAvailableAt expiresAt
  | .reissueChallenge seen otpHmac resendAvailableAt expiresAt =>
      w.updateChallenge seen.id (seen.reissue otpHmac resendAvailableAt expiresAt)
  | .countAttempt seen attempts =>
      w.updateChallenge seen.id fun r => { r with attemptCount := attempts }
  | .deleteChallenge seen =>
      (.ok (), { w with challenges := w.challenges.filter fun r => r.id ≠ seen.id })
  | .deleteExpired now =>
      (.ok (), { w with challenges := w.challenges.filter fun r => now < r.expiresAt })
  | .selectUsers p => (.ok (w.users.filter p), w)
  | .insertUser u => w.insertUser cfg u
  | .updateUser seen email canonical phone => w.updateUser cfg seen email canonical phone

def exec (cfg : Config) : Exec Op Res FlowError Registry Choice := fun _ o c w =>
  let r := if o.isStatement && c.fail then (.error .operational, w) else act cfg o c w
  some (r.1, { r.2 with clock := r.2.clock + c.tick })

/-- A session that is not stored yet. -/
def blank (cfg : Config) (browser : ℕ) (w : Registry) : Items × Registry :=
  let text := cfg.secrets.token w.nextToken
  (.empty text, { w with
    nextToken := w.nextToken + 1
    history := .issued browser .sessionId text :: w.history })

/-! ### Addresses and hashes -/

section Texts

variable (cfg : Config)

/-- `_normalize` and `normalize_registration_email`. -/
def normalizeRegistrationEmail (email : PyStr) : PyStr := cfg.folding.casefold email.strip

def emailDomain (email : PyStr) : PyStr := cfg.folding.casefold (domainOf email)

def customerEmailPolicyViolation (email : PyStr) : Option String :=
  match normalizeIdentityEmail cfg.folding email with
  | .error _ => some "invalid_email"
  | .ok normalized =>
      if normalized ∈ cfg.policy.rootAdminEmails then some "root_admin_allowlisted_email"
      else if emailDomain cfg normalized ∈ cfg.policy.adminAllowedEmailDomains then
        some "admin_email_domain"
      else if emailDomain cfg normalized ∈ cfg.policy.customerTempEmailDomains then
        some "temporary_email_domain"
      else none

def requireCustomerEmail (email : PyStr) : Except IdentityPolicyError PyStr :=
  match customerEmailPolicyViolation cfg email with
  | some reason => .error ⟨reason⟩
  | none => normalizeIdentityEmail cfg.folding email

def canonicalize (email : PyStr) : Except IdentityPolicyError PyStr :=
  canonicalizeCustomerEmail cfg.folding cfg.policy.identity email

/-- `_session_reference`, without a new binding. -/
def sessionReference (items : Items) : PyStr :=
  if items.registrationOtpSessionRef ≠ [] then items.registrationOtpSessionRef
  else if items.sid ≠ [] then items.sid
  else .ofString "anonymous"

def sessionBindingHash (reference : PyStr) : PyStr :=
  cfg.secrets.hex (.ofString "registration-otp-session:" ++ reference)

def emailHash (email : PyStr) : PyStr :=
  cfg.secrets.hex (.ofString "registration-otp-email:" ++ normalizeRegistrationEmail cfg email)

def otpHmac (email otpCode : PyStr) : PyStr :=
  cfg.secrets.hex (.ofString "registration-otp:v2:" ++
    (normalizeRegistrationEmail cfg email ++ 58 :: otpCode))

/-- `str(user.id)`. -/
def idText (id : ℕ) : PyStr := (Nat.toDigits 10 id).map Char.toNat

def profileEmailCodeHmac (id : ℕ) (sid email code : PyStr) : PyStr :=
  cfg.secrets.hex (.ofString "profile-email-change:" ++
    (idText id ++ 58 :: (sid ++ 58 :: (normalizeRegistrationEmail cfg email ++ 58 :: code))))

def profilePhoneHmac (id : ℕ) (sid phoneNumber : PyStr) : PyStr :=
  cfg.secrets.hex (.ofString "profile-phone-change:" ++
    (idText id ++ 58 :: (sid ++ 58 :: phoneNumber.strip)))

/-- `f"{number:06d}"`. -/
def sixDigits (number : ℕ) : PyStr :=
  List.replicate (6 - (Nat.toDigits 10 number).length) 48 ++ idText number

/-- `PHONE_RE`. -/
def phoneRe (phone : PyStr) : Bool :=
  phone.length = 8 && phone.all (fun n => 48 ≤ n && n ≤ 57) &&
    (phone.head? = some 56 || phone.head? = some 57)

/-- `int(time.time())`. -/
def seconds (clock : ℕ) : ℕ := clock / 1000000

end Texts

abbrev Req (α : Type) := Handler Op Res FlowError Items α

def ask (q : Question) : Req Bool := Handler.perform (Op.ask q)

def time : Req ℕ := Handler.perform Op.time

def randbelow (bound : ℕ) : Req ℕ := Handler.perform (Op.randbelow bound)

/-- Twelve random digits. -/
def accountDigits : Req PyStr := Handler.perform Op.accountDigits

def issue (browser : ℕ) (use : TokenUse) : Req PyStr := Handler.perform (Op.issue browser use)

def note (e : Event) : Req Unit := Handler.perform (Op.note e)

def selectChallenge (sessionBindingHash emailHash : PyStr) : Req (Option Challenge) :=
  Handler.perform (Op.selectChallenge sessionBindingHash emailHash)

def insertChallenge (sessionBindingHash emailHash otpHmac : PyStr)
    (resendAvailableAt expiresAt : ℕ) : Req Challenge :=
  Handler.perform
    (Op.insertChallenge sessionBindingHash emailHash otpHmac resendAvailableAt expiresAt)

def reissueChallenge (seen : Challenge) (otpHmac : PyStr) (resendAvailableAt expiresAt : ℕ) :
    Req Unit :=
  Handler.perform (Op.reissueChallenge seen otpHmac resendAvailableAt expiresAt)

def countAttempt (seen : Challenge) (attempts : ℕ) : Req Unit :=
  Handler.perform (Op.countAttempt seen attempts)

def deleteChallenge (seen : Challenge) : Req Unit := Handler.perform (Op.deleteChallenge seen)

def deleteExpired (now : ℕ) : Req Unit := Handler.perform (Op.deleteExpired now)

def selectUsers (p : User → Bool) : Req (List User) := Handler.perform (Op.selectUsers p)

def insertUser (u : User) : Req ℕ := Handler.perform (Op.insertUser u)

def updateUser (seen : User) (email canonical phone : Option PyStr) : Req Unit :=
  Handler.perform (Op.updateUser seen email canonical phone)

/-- Raise unless the answer is yes. -/
def require (q : Question) (e : FlowError) : Req Unit := do
  let yes ← ask q
  Handler.raiseIf (!yes) e

def liftIdentity (e : IdentityPolicyError → FlowError) (r : Except IdentityPolicyError PyStr) :
    Req PyStr :=
  match r with
  | .ok a => pure a
  | .error err => .throw (e err)

/-! ### Registration codes -/

section Registration

variable (cfg : Config) (browser : ℕ)

def clearRegistrationProgressState (items : Items) : Items :=
  { items with
    registrationOtpPendingEmail := []
    registrationOtpVerifiedEmail := []
    registrationOtpVerifiedAt := 0 }

def clearRegistrationSessionState (items : Items) : Items :=
  { clearRegistrationProgressState items with registrationOtpSessionRef := [] }

/-- `_session_reference(create_session_binding=True)`. -/
def bindSession : Req PyStr := do
  let items ← Handler.get
  if items.registrationOtpSessionRef ≠ [] then pure items.registrationOtpSessionRef
  else
    let reference ← issue browser .reference
    Handler.modify fun items => { items with registrationOtpSessionRef := reference }
    pure reference

/-- `_load_otp_challenge` for a session reference, and when it read the clock. -/
def loadOtpChallenge (reference email : PyStr) : Req (Option (Challenge × ℕ)) := do
  let found ← selectChallenge (sessionBindingHash cfg reference) (emailHash cfg email)
  match found with
  | none => pure none
  | some challenge =>
      let now ← time
      if challenge.expiresAt ≤ now then
        deleteChallenge challenge
        pure none
      else pure (some (challenge, now))

/-- `int((resend_available_at - now).total_seconds())`. -/
def retryAfter (challenge : Challenge) (now : ℕ) : ℤ :=
  ((challenge.resendAvailableAt : ℤ) - now).tdiv 1000000

def storeOtp (reference email code : PyStr) (now : ℕ) : Option Challenge → Req Challenge
  | none => insertChallenge (sessionBindingHash cfg reference) (emailHash cfg email)
      (otpHmac cfg email code) (now + registrationOtpResendCooldownSeconds * 1000000)
      (now + registrationOtpTtlSeconds * 1000000)
  | some challenge => do
      reissueChallenge challenge (otpHmac cfg email code)
        (now + registrationOtpResendCooldownSeconds * 1000000)
        (now + registrationOtpTtlSeconds * 1000000)
      pure challenge

/-- What is noted of a code that was drawn. -/
def drawnCode (email code : PyStr) (now : ℕ) : Option Challenge → Event
  | none => .drawn browser none email code now
  | some challenge =>
      if challenge.otpHmac = otpHmac cfg email code then .redrawn browser email code now
      else .drawn browser none email code now

/-- The code is stored before it is sent. -/
def sendOtp (reference email : PyStr) (challenge : Option Challenge) (now : ℕ) : Req Unit := do
  let number ← randbelow 1000000
  Handler.modify clearRegistrationProgressState
  note (drawnCode cfg browser email (sixDigits number) now challenge)
  let challenge ← storeOtp cfg reference email (sixDigits number) now challenge
  let sent ← ask .mailSent
  if sent then Handler.modify fun items => { items with registrationOtpPendingEmail := email }
  else
    deleteChallenge challenge
    Handler.modify clearRegistrationProgressState
    Handler.throw (.otp 503)

def requestRegistrationOtp (email : PyStr) : Req Unit := do
  let limited ← ask .rateLimited
  Handler.raiseIf limited (.otp 429)
  let email ← liftIdentity (fun _ => .otp 400) (requireCustomerEmail cfg email)
  let canonical ← liftIdentity .identity (canonicalize cfg email)
  let existing ← selectUsers fun u =>
    u.customer && u.registrationEmailCanonical = some canonical
  if existing ≠ [] then pure ()
  else
    let now ← time
    let reference ← bindSession browser
    let found ← loadOtpChallenge cfg reference email
    match found with
    | none => sendOtp cfg browser reference email none now
    | some (challenge, _) =>
        Handler.raiseIf (0 < retryAfter challenge now) (.otp 429)
        sendOtp cfg browser reference email (some challenge) now

def checkOtp (email otpCode : PyStr) (challenge : Challenge) (checkedAt : ℕ) : Req Unit := do
  if challenge.otpHmac = otpHmac cfg email (PyStr.strip otpCode) then
    deleteChallenge challenge
    let now ← time
    note (.entered browser none email (PyStr.strip otpCode) checkedAt now)
    Handler.modify fun items => { items with
      registrationOtpVerifiedEmail := email
      registrationOtpVerifiedAt := seconds now
      registrationOtpPendingEmail := [] }
  else if registrationOtpMaxAttempts ≤ challenge.attemptCount + 1 then
    deleteChallenge challenge
    Handler.throw (.otp 400)
  else
    countAttempt challenge (challenge.attemptCount + 1)
    Handler.throw (.otp 400)

def verifyRegistrationOtp (email otpCode : PyStr) : Req Unit := do
  let email ← liftIdentity (fun _ => .otp 400) (requireCustomerEmail cfg email)
  let items ← Handler.get
  let found ← loadOtpChallenge cfg (sessionReference items) email
  match found with
  | none => Handler.throw (.otp 400)
  | some (challenge, checkedAt) => checkOtp cfg browser email otpCode challenge checkedAt

/-- `register_otp_verify` of the web pages, which takes the address from the session. -/
def registerOtpVerify (otpCode : PyStr) : Req Unit := do
  let items ← Handler.get
  let pendingEmail := normalizeRegistrationEmail cfg items.registrationOtpPendingEmail
  require .formValid (.otp 400)
  Handler.raiseIf (pendingEmail = []) (.otp 400)
  verifyRegistrationOtp cfg browser pendingEmail otpCode

/-- `current_verified_registration_email`. -/
def currentVerifiedRegistrationEmail : Req (Option PyStr) := do
  let items ← Handler.get
  let verifiedEmail := normalizeRegistrationEmail cfg items.registrationOtpVerifiedEmail
  let now ← time
  if verifiedEmail = [] then pure none
  else if (customerEmailPolicyViolation cfg verifiedEmail).isSome ∨
      items.registrationOtpVerifiedAt + registrationOtpTtlSeconds < seconds now then
    Handler.modify clearRegistrationSessionState
    pure none
  else
    note (.admitted browser verifiedEmail now)
    pure (some verifiedEmail)

/-- `require_current_verified_registration_email`, or `require_verified_registration_email`
for an address that is given. -/
def requireVerifiedRegistrationEmail (email : Option PyStr) : Req PyStr := do
  match email with
  | none =>
      let verified ← currentVerifiedRegistrationEmail cfg browser
      match verified with
      | none => Handler.throw (.auth 400)
      | some verifiedEmail => pure verifiedEmail
  | some email =>
      let normalizedEmail ← liftIdentity (fun _ => .auth 400) (requireCustomerEmail cfg email)
      let verified ← currentVerifiedRegistrationEmail cfg browser
      if verified = some normalizedEmail then pure normalizedEmail
      else Handler.throw (.auth 400)

/-- `_generate_account_number`, with the number of tries that are left. -/
def generateAccountNumber : ℕ → Req PyStr
  | 0 => Handler.throw (.auth 500)
  | tries + 1 => do
      let candidate ← accountDigits
      let found ← selectUsers fun u => u.accountNumber = some candidate
      if found = [] then pure candidate else generateAccountNumber tries

structure RegistrationData where
  email : Option PyStr
  username : PyStr
  phoneNumber : PyStr

def consumeVerifiedRegistrationEmail (email : PyStr) (items : Items) : Items :=
  if normalizeRegistrationEmail cfg items.registrationOtpVerifiedEmail =
      normalizeRegistrationEmail cfg email then
    clearRegistrationSessionState items
  else items

/-- `db.session.rollback()` and another error for a row that is refused. -/
def commitUser (u : User) : Req ℕ :=
  Handler.tryCatch (insertUser u) fun e =>
    Handler.throw (if e = .integrity then .auth 400 else e)

/-- `register_user`. The row, the welcome credit and its audit event are one transaction. -/
def registerUser (data : RegistrationData) : Req Unit := do
  let email ← requireVerifiedRegistrationEmail cfg browser data.email
  let canonical ← liftIdentity .identity (canonicalize cfg email)
  require .passwordsMatch (.auth 400)
  require .passwordAllowed (.auth 400)
  let sameName ← selectUsers fun u =>
    cfg.sqlLower u.username = normalizeRegistrationEmail cfg data.username
  Handler.raiseIf (sameName ≠ []) (.auth 400)
  let samePhone ← selectUsers fun u => u.phoneNumber = some data.phoneNumber.strip
  Handler.raiseIf (samePhone ≠ []) (.auth 400)
  let sameEmail ← selectUsers fun u => u.registrationEmailCanonical = some canonical
  Handler.raiseIf (sameEmail ≠ []) (.auth 400)
  let accountNumber ← generateAccountNumber 10
  require .creditSigned (.auth 503)
  require .auditWritten (.auth 503)
  let _ ← commitUser ⟨0, true, data.username.strip, email, some canonical,
    some data.phoneNumber.strip, some accountNumber⟩
  Handler.modify (consumeVerifiedRegistrationEmail cfg email)

/-- `register_submit` of the web pages. -/
def registerSubmit (data : RegistrationData) : Req Unit := do
  let verified ← currentVerifiedRegistrationEmail cfg browser
  Handler.raiseIf (verified = none) (.auth 400)
  require .formValid (.auth 400)
  registerUser cfg browser { data with email := none }

end Registration

/-! ### The address in the profile -/

section Profile

variable (cfg : Config) (browser : ℕ)

def clearPendingProfileEmailChange (items : Items) : Items :=
  { items with
    profileEmailPendingEmail := []
    profileEmailPendingPhoneHmac := []
    profileEmailPendingCodeHmac := []
    profileEmailPendingExpiresAt := 0 }

/-- `db.session.get(User, id)`. -/
def loadUser (id : ℕ) : Req User := do
  let found ← selectUsers fun u => u.id = id
  match found with
  | [] => Handler.throw .objectDeleted
  | u :: _ => pure u

/-- `verify_high_risk_authorization`, which gives the session another id. -/
def verifyHighRiskAuthorization : Req Unit := do
  require .stepUp (.auth 401)
  let sid ← issue browser .sessionId
  Handler.modify fun items => { items with sid := sid }

/-- `_profile_update_values`; the address is there if it is another one. -/
def profileUpdateValues (user : User) (email phoneNumber : PyStr) : Req (Option PyStr × PyStr) := do
  let phone := phoneNumber.strip
  Handler.raiseIf (!phoneRe phone) (.auth 400)
  if cfg.lower email.strip = normalizeRegistrationEmail cfg user.email then pure (none, phone)
  else
    let email ← liftIdentity (fun _ => .auth 400) (requireCustomerEmail cfg email)
    pure (some email, phone)

/-- `_reject_duplicate_profile_identifiers`; more than one row is an error of its own. -/
def rejectDuplicateProfileIdentifiers (user : User) (email phone : PyStr) : Req Unit := do
  let canonical ← liftIdentity .identity (canonicalize cfg email)
  let others ← selectUsers fun u =>
    (u.registrationEmailCanonical = some canonical || u.phoneNumber = some phone) &&
      u.id ≠ user.id
  Handler.raiseIf (others.length = 1) (.auth 400)
  Handler.raiseIf (others ≠ []) .multipleResults

/-- `_create_profile_email_change_challenge`. -/
def createProfileEmailChangeChallenge (id : ℕ) (email phone : PyStr) : Req Unit := do
  let number ← randbelow 1000000
  let now ← time
  note (.drawn browser (some id) email (sixDigits number) now)
  Handler.modify fun items => { items with
    profileEmailPendingEmail := email
    profileEmailPendingPhoneHmac := profilePhoneHmac cfg id items.sid phone
    profileEmailPendingCodeHmac := profileEmailCodeHmac cfg id items.sid email (sixDigits number)
    profileEmailPendingExpiresAt := seconds now + cfg.profileEmailChangeTtlSeconds }
  let sent ← ask .mailSent
  if sent then pure ()
  else
    Handler.modify clearPendingProfileEmailChange
    Handler.throw (.auth 503)

/-- What `_pending_profile_email_change` looks at besides the clock. -/
def Items.pendingComplete (items : Items) : Bool :=
  items.profileEmailPendingEmail ≠ [] && items.profileEmailPendingPhoneHmac ≠ [] &&
    items.profileEmailPendingCodeHmac ≠ []

/-- `_pending_profile_email_change`: whether there is one, and when it read the clock. -/
def pendingProfileEmailChange : Req (Option ℕ) := do
  let items ← Handler.get
  let now ← time
  if !items.pendingComplete ∨ items.profileEmailPendingExpiresAt ≤ seconds now then
    Handler.modify clearPendingProfileEmailChange
    pure none
  else pure (some now)

/-- `_validate_profile_email_change_code`. -/
def validateProfileEmailChangeCode (id : ℕ) (email phone verificationCode : PyStr) :
    Req Unit := do
  let pending ← pendingProfileEmailChange
  let items ← Handler.get
  match pending with
  | none => Handler.throw (.auth 400)
  | some now =>
      Handler.raiseIf (items.profileEmailPendingEmail ≠ email) (.auth 400)
      Handler.raiseIf (items.profileEmailPendingPhoneHmac ≠
        profilePhoneHmac cfg id items.sid phone) (.auth 400)
      Handler.raiseIf (items.profileEmailPendingCodeHmac ≠
        profileEmailCodeHmac cfg id items.sid email (PyStr.strip verificationCode)) (.auth 400)
      note (.entered browser (some id) email (PyStr.strip verificationCode) now now)

/-- `_commit_profile_update`, for a row that is loaded again after the step-up; the columns
that have changed are there. -/
def commitProfileUpdate (id : ℕ) (email phone : Option PyStr) : Req Unit := do
  let user ← loadUser id
  match email with
  | none =>
      require .auditWritten .auditWrite
      updateUser user none none phone
  | some email =>
      let canonical ← liftIdentity .identity (canonicalize cfg email)
      require .auditWritten .auditWrite
      updateUser user (some email) (some canonical) phone
      Handler.modify clearPendingProfileEmailChange

/-- `update_profile_details`, up to the notifications. -/
def updateProfileDetails (id : ℕ) (email phoneNumber verificationCode : PyStr) : Req Unit := do
  let user ← loadUser id
  let (newEmail, phone) ← profileUpdateValues cfg user email phoneNumber
  let newPhone := if user.phoneNumber = some phone then none else some phone
  if newEmail = none ∧ newPhone = none then pure ()
  else
    require .accountUsable (.auth 403)
    match newEmail with
    | none =>
        rejectDuplicateProfileIdentifiers cfg user (cfg.lower email.strip) phone
        verifyHighRiskAuthorization browser
        commitProfileUpdate cfg id none newPhone
    | some newEmail =>
        rejectDuplicateProfileIdentifiers cfg user newEmail phone
        if verificationCode = [] then
          verifyHighRiskAuthorization browser
          createProfileEmailChangeChallenge cfg browser id newEmail phone
        else
          validateProfileEmailChangeCode cfg browser id newEmail phone verificationCode
          verifyHighRiskAuthorization browser
          commitProfileUpdate cfg id (some newEmail) newPhone

end Profile

/-! ### Requests -/

inductive Request
  | registerOtpRequest (email : PyStr)
  /-- By the API, and on the web page. -/
  | registerOtpVerifyApi (email otpCode : PyStr)
  | registerOtpVerify (otpCode : PyStr)
  | registerForm
  | registerApi (data : RegistrationData)
  | registerSubmit (data : RegistrationData)
  | profile
  | profileSubmit (email phoneNumber verificationCode : PyStr)
  /-- A session of this user is established. -/
  | signIn (user : ℕ)
  | signOut
  /-- A step-up for something else. -/
  | stepUp
  | cleanup
  /-- An account that is not a customer's is created. -/
  | staff (u : User)

/-- What a request does. A profile is that of the session's user. -/
def Request.handler (cfg : Config) (browser : ℕ) : Request → Req Unit
  | .registerOtpRequest email => requestRegistrationOtp cfg browser email
  | .registerOtpVerifyApi email otpCode => verifyRegistrationOtp cfg browser email otpCode
  | .registerOtpVerify otpCode => Addresses.registerOtpVerify cfg browser otpCode
  | .registerForm => do
      let _ ← currentVerifiedRegistrationEmail cfg browser
      pure ()
  | .registerApi data => registerUser cfg browser data
  | .registerSubmit data => Addresses.registerSubmit cfg browser data
  | .profile => do
      let _ ← pendingProfileEmailChange
      pure ()
  | .profileSubmit email phoneNumber verificationCode => do
      let items ← Handler.get
      match items.userId with
      | none => Handler.throw (.auth 401)
      | some id => updateProfileDetails cfg browser id email phoneNumber verificationCode
  | .signIn user => do
      let sid ← issue browser .sessionId
      Handler.modify fun _ => { Items.empty sid with userId := some user }
  | .signOut => Handler.modify fun items => .empty items.sid
  | .stepUp => verifyHighRiskAuthorization browser
  | .cleanup => do
      let now ← time
      deleteExpired now
  | .staff u => do
      let _ ← commitUser { u with customer := false, registrationEmailCanonical := none }
      pure ()

/-- Nobody is registered, and any number of requests of any browsers. -/
def start (cfg : Config) (browser : ℕ → ℕ) (requests : ℕ → Request) (clock : ℕ) :
    VisitConf Op Res FlowError Items Registry :=
  opening ⟨clock, [], [], 0, 0, 0, []⟩ fun t => (requests t).handler cfg (browser t)

end SitBank.Auth.Addresses
