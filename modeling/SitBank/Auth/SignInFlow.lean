import SitBank.Interaction.Handlers

/-!
How a request comes to be served as a user: the two steps of the login of customers
(`app/auth/services.py`) and of staff (`app/admin/services.py`), the session functions they use,
the hook before each request and the step-ups (`app/security/sessions.py`).

A request presents any cookie. It gets a session that was once saved under this id, whichever,
or a new one under an id of its own. What rows of accounts say when they are read, whether codes
and passwords are right, limits and audit events are questions with any answer. Each operation
may fail.

The history is not part of the program. Operations and `note` write into it what has happened.
-/

namespace SitBank.Auth.SignIn

open SitBank.Interaction

/-! ### Data -/

structure Config where
  /-- `APP_MODE` is `admin`, and not `customer`. -/
  admin : Bool
  pendingMfaMaxAgeSeconds : ℕ
  sessionAbsoluteLifetimeSeconds : ℕ
  sessionInactivitySeconds : ℕ

inductive AccountType
  | customer
  | staff
  | admin
  | rootAdmin
  deriving DecidableEq

structure Account where
  accountType : AccountType
  /-- `account_status == "active"`. -/
  active : Bool
  /-- `is_admin_workplace_email(user.email)`. -/
  workplaceEmail : Bool
  workplaceEmailVerified : Bool
  mfaEnabled : Bool
  isFrozen : Bool
  securityLocked : Bool
  securityLockReason : String
  deriving DecidableEq

def isActiveStaffUser (user : Account) : Bool :=
  user.accountType ≠ .customer && user.active && user.mfaEnabled && user.workplaceEmail

/-- What the functions here read of a session. -/
structure Items where
  /-- `session.sid`, which is not an entry. -/
  sid : ℕ
  userId : Option ℕ
  pendingMfaUserId : Option ℕ
  passwordAuthenticatedAt : Option ℕ
  authCreatedAt : Option ℕ
  lastActivityAt : Option ℕ
  /-- There are other entries. -/
  others : Bool
  deriving DecidableEq

def Items.empty (sid : ℕ) : Items := ⟨sid, none, none, none, none, none, false⟩

inductive Purpose
  | login
  | stepUp
  deriving DecidableEq

/-- Why a request got a session id. -/
inductive Why
  | opened
  | password (user at_ : ℕ)
  /-- Without a second factor, and with one. -/
  | bootstrap (user since : ℕ)
  | factors (user since : ℕ)
  | stepUp (user previous since : ℕ)
  | other
  deriving DecidableEq

/-- Each with the number of the request; times are in seconds. -/
inductive Event
  | issued (request sid : ℕ) (why : Why)
  /-- The password of the account was right, whose row was read before; later the row said
  whether it has a second factor. -/
  | password (request user : ℕ) (account : Account) (mfaEnabled : Bool) (at_ : ℕ)
  /-- A session that waits for the second factor passed the hook. -/
  | resumed (request user sid at_ : ℕ)
  /-- A code was right that was sent with the session `sid`. -/
  | code (request user sid : ℕ) (account : Account) (purpose : Purpose)
  /-- The request is served as this user; the hook was passed at that time. -/
  | served (request user sid at_ : ℕ)
  deriving DecidableEq

structure World where
  clock : ℕ
  saved : List Items
  nextSid : ℕ
  history : List Event

instance : Preorder World := laterBy World.clock World.history

inductive FlowError
  | auth (status : ℕ)
  /-- The request is answered without a view. -/
  | answered
  | database
  deriving DecidableEq

inductive Question
  | revoked
  | risky
  | withinLimits
  | passwordMatches
  | codeAccepted
  | booked
  | stable
  deriving DecidableEq

inductive Op
  | ask (q : Question)
  | time
  | account (user : ℕ)
  | open_ (request : ℕ) (cookie : Option ℕ)
  | regenerate (request : ℕ) (why : Why)
  | save (items : Items)
  | note (e : Event)

def Res : Op → Type
  | .ask _ => Bool
  | .time => ℕ
  | .account _ => Option Account
  | .open_ _ _ => Items
  | .regenerate _ _ => ℕ
  | _ => Unit

/-- What the program cannot decide. -/
structure Choice where
  yes : Bool
  number : ℕ
  account : Option Account
  fail : Bool
  tick : ℕ

/-- `int(time.time())`. -/
def seconds (clock : ℕ) : ℕ := clock / 1000000

/-- `_new_session_id`. -/
def World.issue (w : World) (request : ℕ) (why : Why) : World :=
  { w with nextSid := w.nextSid + 1, history := .issued request w.nextSid why :: w.history }

/-- The sessions that were saved under the id of the cookie. -/
def World.savedUnder (w : World) (cookie : Option ℕ) : List Items :=
  w.saved.filter fun s => some s.sid = cookie

/-- `open_session`: the session that is found, or a new one. -/
def World.openSession (w : World) (request : ℕ) : Option Items → Items × World
  | some s => (s, w)
  | none => (.empty w.nextSid, w.issue request .opened)

def act (o : Op) (c : Choice) (w : World) : Res o × World :=
  match o with
  | .ask _ => (c.yes, w)
  | .time => (w.clock, w)
  | .account _ => (c.account, w)
  | .open_ request cookie => w.openSession request ((w.savedUnder cookie)[c.number]?)
  | .regenerate request why => (w.nextSid, w.issue request why)
  | .save items =>
      ((), if items = .empty items.sid then w else { w with saved := items :: w.saved })
  | .note e => ((), { w with history := e :: w.history })

def exec : Exec Op Res FlowError World Choice := fun _ o c w =>
  let r := act o c w
  let w' := if c.fail then w else r.2
  some (if c.fail then .error .database else .ok r.1, { w' with clock := w'.clock + c.tick })

abbrev Req (α : Type) := Handler Op Res FlowError Items α

def ask (q : Question) : Req Bool := Handler.perform (Op.ask q)

def time : Req ℕ := Handler.perform Op.time

def account (user : ℕ) : Req (Option Account) := Handler.perform (Op.account user)

def note (e : Event) : Req Unit := Handler.perform (Op.note e)

def require (q : Question) (status : ℕ) : Req Unit := do
  let yes ← ask q
  Handler.raiseIf (!yes) (.auth status)

def askIf (c : Bool) (q : Question) : Req Bool := if c then ask q else pure false

/-! ### Sessions -/

section Sessions

variable (cfg : Config) (request : ℕ)

def clear (items : Items) : Items := .empty items.sid

/-- `regenerate`. When the lookup of the old record fails, the transaction is aborted, and
`save_session`, which starts with such a lookup, fails too: nothing is saved, as if the session
were empty. -/
def regenerate (why : Why) : Req ℕ :=
  Handler.tryCatch (Handler.perform (Op.regenerate request why)) fun e => do
    Handler.modify clear
    Handler.throw e

/-- `rotate_session_id`. -/
def rotateSessionId (why : Why) : Req Unit := do
  let items ← Handler.get
  if items = .empty items.sid then pure ()
  else
    let sid ← regenerate request why
    Handler.modify fun items => { items with sid := sid }

/-- `begin_password_authenticated_session`. -/
def beginPasswordAuthenticatedSession (user : ℕ) (seen : Account) : Req Unit := do
  let passwordAt ← time
  note (.password request user seen true (seconds passwordAt))
  let now ← time
  Handler.modify fun items => { Items.empty items.sid with
    pendingMfaUserId := some user
    passwordAuthenticatedAt := some (seconds passwordAt)
    lastActivityAt := some (seconds now)
    others := true }
  rotateSessionId request (.password user (seconds passwordAt))

/-- `establish_authenticated_session`. What follows the rotation works on the records. -/
def establishAuthenticatedSession (user : ℕ) (why : ℕ → ℕ → Why) : Req Unit := do
  let now ← time
  Handler.modify fun items => { Items.empty items.sid with
    userId := some user
    authCreatedAt := some (seconds now)
    lastActivityAt := some (seconds now)
    others := true }
  rotateSessionId request (why user (seconds now))
  let _ ← ask .booked

/-- `mark_fresh_mfa`. -/
def markFreshMfa : Req Unit := do
  let now ← time
  Handler.modify fun items => { items with lastActivityAt := some (seconds now), others := true }

/-- A recovery code does not count as fresh. -/
def markFreshMfaIf (c : Bool) : Req Unit := if c then markFreshMfa else pure ()

/-- `rotate_authenticated_session_after_mfa`, for the session's own user. -/
def rotateAuthenticatedSessionAfterMfa (user : ℕ) : Req Unit := do
  markFreshMfa
  let items ← Handler.get
  rotateSessionId request (.stepUp user items.sid (items.authCreatedAt.getD 0))
  let _ ← ask .booked

/-! ### The hook -/

def pendingMfaExpired (items : Items) (now : ℕ) : Bool :=
  items.pendingMfaUserId.isSome && items.passwordAuthenticatedAt.all fun t =>
    t = 0 || t + cfg.pendingMfaMaxAgeSeconds < now

def lifetimeExpired (items : Items) (now : ℕ) : Bool :=
  items.userId.isSome && items.authCreatedAt.any fun t =>
    t = 0 || t + cfg.sessionAbsoluteLifetimeSeconds < now

/-- `now - int(session.get("last_activity_at") or now)` is too much. -/
def idle (items : Items) (now : ℕ) : Bool :=
  items.lastActivityAt.any fun t => t ≠ 0 && t + cfg.sessionInactivitySeconds < now

/-- An authenticated session without a creation time gets one. -/
def withAuthCreatedAt (now : ℕ) (items : Items) : Items :=
  if items.userId.isSome && items.authCreatedAt.isNone then
    { items with authCreatedAt := some now }
  else items

/-- `revoke_current_session`, and the answer. -/
def revokeCurrentSession : Req Unit := do
  let _ ← ask .booked
  Handler.modify clear
  Handler.throw .answered

/-- `_pending_mfa_expiry_response`. -/
def pendingMfaExpiryResponse (authPath : Bool) : Req Unit := do
  let _ ← ask .booked
  Handler.modify clear
  if authPath then Handler.throw .answered
  else
    Handler.modify fun items => { items with others := true }
    rotateSessionId request .other
    Handler.throw .answered

/-- The session counts as used, and the request may go on with its second factor. -/
def passHook (exempt : Bool) (now : ℕ) (items : Items) : Req Unit := do
  Handler.modify fun items => if exempt then items else { items with lastActivityAt := some now }
  match items.pendingMfaUserId with
  | none => pure ()
  | some user => note (.resumed request user items.sid now)

/-- The session belongs to somebody, and the clock says `now`. -/
def enforceSessionLifetime (authPath exempt : Bool) (now : ℕ) : Req Unit := do
  let items ← Handler.get
  if pendingMfaExpired cfg items now then pendingMfaExpiryResponse request authPath
  else if lifetimeExpired cfg items now then revokeCurrentSession
  else
    Handler.modify (withAuthCreatedAt now)
    if idle cfg items now then revokeCurrentSession
    else
      let risky ← askIf items.userId.isSome .risky
      if risky then revokeCurrentSession else passHook request exempt now items

/-- What the hook looks at of a request. -/
structure Visit where
  authPath : Bool
  /-- `is_session_activity_exempt`. -/
  exempt : Bool
  publicEndpoint : Bool
  deriving DecidableEq

/-- `_enforce_session_activity`, with the time it has read. -/
def enforceSessionActivity (visit : Visit) : Req ℕ := do
  let items ← Handler.get
  let revoked ← askIf (items ≠ .empty items.sid) .revoked
  if revoked then
    Handler.modify clear
    if visit.publicEndpoint then pure 0 else Handler.throw .answered
  else if items.userId = none ∧ items.pendingMfaUserId = none then pure 0
  else
    let now ← time
    enforceSessionLifetime cfg request visit.authPath visit.exempt (seconds now)
    pure (seconds now)

/-- The role that the application is for. -/
def requireRole (seen : Account) : Req Unit :=
  if cfg.admin then Handler.raiseIf (!isActiveStaffUser seen) (.auth 403)
  else if seen.accountType = .customer then pure ()
  else do
    Handler.modify clear
    Handler.throw (.auth 401)

/-- `load_current_user` and `web_login_required`, or `require_staff_session`. -/
def currentUser (passedAt : ℕ) : Req (ℕ × Account) := do
  let items ← Handler.get
  match items.userId with
  | none => Handler.throw (.auth 401)
  | some user =>
      let found ← account user
      match found with
      | none => Handler.throw (.auth 401)
      | some seen =>
          requireRole cfg seen
          note (.served request user items.sid passedAt)
          pure (user, seen)

/-- `enforce_mfa_onboarding` of the web pages, for the endpoints that are not its exceptions. -/
def enforceMfaOnboarding (seen : Account) : Req Unit :=
  Handler.raiseIf (!seen.mfaEnabled) (.auth 302)

/-! ### Logins -/

/-- The status of `_enforce_customer_login_account_state`. -/
def customerLoginRefusal (user : Account) : Option ℕ :=
  if user.securityLocked && (user.securityLockReason = "password_failed_attempts" ||
      user.securityLockReason = "mfa_failed_attempts") then some 401
  else if user.isFrozen then some 403
  else if user.securityLocked then some 401
  else none

/-- `authenticate_primary`, for the account that the identifier names. The commit before the
branch makes the row be read again. -/
def authenticatePrimary (named : Option ℕ) : Req Unit := do
  match named with
  | none =>
      require .withinLimits 429
      let _ ← ask .passwordMatches
      Handler.throw (.auth 401)
  | some user =>
      let found ← account user
      require .withinLimits 429
      require .passwordMatches 401
      match found with
      | none => Handler.throw (.auth 401)
      | some seen =>
          Handler.raiseIf (seen.accountType ≠ .customer) (.auth 401)
          match customerLoginRefusal seen with
          | some status => Handler.throw (.auth status)
          | none =>
              let reloaded ← account user
              match reloaded with
              | none => Handler.throw .database
              | some current =>
                  if current.mfaEnabled then beginPasswordAuthenticatedSession request user seen
                  else
                    let passwordAt ← time
                    note (.password request user seen false (seconds passwordAt))
                    establishAuthenticatedSession request user .bootstrap

/-- `complete_pending_mfa`, with a code of the authenticator or a recovery code. -/
def completePendingMfa (recovery : Bool) : Req Unit := do
  let items ← Handler.get
  match items.pendingMfaUserId with
  | none => Handler.throw (.auth 401)
  | some user =>
      let found ← account user
      match found with
      | none => Handler.throw (.auth 401)
      | some seen =>
          Handler.raiseIf (!seen.mfaEnabled) (.auth 401)
          Handler.raiseIf (seen.isFrozen || seen.securityLocked) (.auth 403)
          require .withinLimits 429
          require .codeAccepted 401
          note (.code request user items.sid seen .login)
          markFreshMfaIf (!recovery)
          let _ ← ask .booked
          establishAuthenticatedSession request user .factors

/-- `authenticate_admin_primary`. -/
def authenticateAdminPrimary (named : Option ℕ) : Req Unit := do
  require .withinLimits 429
  match named with
  | none =>
      let _ ← ask .passwordMatches
      Handler.throw (.auth 401)
  | some user =>
      let found ← account user
      require .passwordMatches 401
      match found with
      | none => Handler.throw (.auth 401)
      | some seen =>
          Handler.raiseIf (!(isActiveStaffUser seen && seen.workplaceEmailVerified)) (.auth 401)
          Handler.raiseIf (seen.isFrozen || seen.securityLocked) (.auth 401)
          let _ ← ask .booked
          beginPasswordAuthenticatedSession request user seen

/-- `complete_admin_mfa_login`. -/
def completeAdminMfaLogin : Req Unit := do
  let items ← Handler.get
  match items.pendingMfaUserId with
  | none => Handler.throw (.auth 401)
  | some user =>
      let found ← account user
      match found with
      | none => Handler.throw (.auth 401)
      | some seen =>
          Handler.raiseIf (!isActiveStaffUser seen) (.auth 401)
          require .withinLimits 429
          require .codeAccepted 401
          note (.code request user items.sid seen .login)
          markFreshMfa
          let _ ← ask .booked
          establishAuthenticatedSession request user .factors

/-- A page that asks for a code and goes on under another session id, as
`verify_high_risk_authorization` and `verify_mfa_setup` do. -/
def stepUp (user : ℕ) (seen : Account) : Req Unit := do
  require .stable 401
  require .codeAccepted 401
  let items ← Handler.get
  note (.code request user items.sid seen .stepUp)
  markFreshMfa
  rotateAuthenticatedSessionAfterMfa request user

/-- The exchange of the token of a password reset. -/
def beginResetSession : Req Unit := do
  let now ← time
  Handler.modify fun items => { Items.empty items.sid with
    lastActivityAt := some (seconds now)
    others := true }
  rotateSessionId request .other

end Sessions

/-! ### Requests -/

inductive View
  /-- Both steps of a login, of the application's kind. -/
  | login (named : Option ℕ)
  | mfaVerify (recovery : Bool)
  /-- A page for users who are signed in. -/
  | page (onboarding : Bool)
  | stepUp
  | logout
  | resetExchange
  | forEveryone
  deriving DecidableEq

structure Request where
  cookie : Option ℕ
  visit : Visit
  view : View
  deriving DecidableEq

def View.handler (cfg : Config) (request passedAt : ℕ) : View → Req Unit
  | .login named =>
      if cfg.admin then authenticateAdminPrimary request named
      else authenticatePrimary request named
  | .mfaVerify recovery =>
      if cfg.admin then completeAdminMfaLogin request else completePendingMfa request recovery
  | .page onboarding => do
      let (_, seen) ← currentUser cfg request passedAt
      if onboarding then enforceMfaOnboarding seen else pure ()
  | .stepUp => do
      let (user, seen) ← currentUser cfg request passedAt
      SignIn.stepUp request user seen
  | .logout => do
      let _ ← ask .booked
      Handler.modify clear
  | .resetExchange => beginResetSession request
  | .forEveryone => Handler.modify fun items => { items with others := true }

def Request.handler (cfg : Config) (request : ℕ) (q : Request) : Req Unit := do
  let passedAt ← enforceSessionActivity cfg request q.visit
  q.view.handler cfg request passedAt

/-- The session is saved whatever the handler ends in. -/
def serve (cfg : Config) (request : ℕ) (q : Request) : Prog Op Res FlowError Unit :=
  (Prog.perform (Op.open_ request q.cookie)).bind fun items =>
    (q.handler cfg request items).bind fun r => Prog.perform (Op.save r.2)

/-- Nobody is signed in, and any number of requests with any cookies. -/
def start (cfg : Config) (requests : ℕ → Request) (clock : ℕ) :
    Conf Op Res FlowError Unit World where
  world := ⟨clock, [], 0, []⟩
  prog t := serve cfg t (requests t)

end SitBank.Auth.SignIn
