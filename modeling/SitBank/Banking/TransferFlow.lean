import SitBank.Interaction.Handlers
import SitBank.Python.Dict

/-!
How money is sent (`app/banking/routes.py`, `execute_local_transfer` and
`execute_payup_transfer`): a payee is requested and confirmed, a transfer to it is staged and
confirmed; for PayUp a recipient is looked up, the transfer is staged and confirmed.

Requests of any number of browsers run interleaved, each with a copy of its session. Whatever
depends on nothing else of this model is a question with any answer: forms, limits, balances,
the account's state, authenticator codes, the risk policy, signing, audit events. The locks of
rows are left out, and each statement of the database may fail. Money is counted in cents, which
is all that `AMOUNT_RE` admits, time in microseconds.

The history is not part of the program. Rows are inserted with an event, and `note` writes what
has just happened.
-/

namespace SitBank.Banking.Staged

open SitBank.Interaction SitBank.Python

/-! ### Settings -/

/-- `active_hmac_hex`, and the texts of `os.urandom(32).hex()`: the n-th one is `token n`. Of
the HMAC it is used that it has no collisions, of the tokens that they do not repeat. -/
structure Secrets where
  hex : PyStr → PyStr
  hex_injective : Function.Injective hex
  token : ℕ → PyStr
  token_injective : Function.Injective token

structure Config where
  secrets : Secrets
  payeeCooldownSeconds : ℕ

/-- `_PENDING_PAYEE_TTL`, `_PENDING_TRANSFER_TTL`, `_PAYUP_PENDING_RECIPIENT_TTL` and
`_PAYUP_PENDING_TRANSFER_TTL`. -/
def pendingTtlSeconds : ℕ := 300

def ttl : ℕ := pendingTtlSeconds * 1000000

def Config.cooldown (cfg : Config) : ℕ := cfg.payeeCooldownSeconds * 1000000

def minTransactionCents : ℕ := 1

def maxTransactionCents : ℕ := 5000000

def withinBounds (amount : ℕ) : Bool := minTransactionCents ≤ amount && amount ≤ maxTransactionCents

/-! ### Data -/

structure User where
  id : ℕ
  accountNumber : Option PyStr
  phoneNumber : Option PyStr
  fullName : PyStr
  deriving DecidableEq

structure Payee where
  id : ℕ
  userId : ℕ
  nickname : PyStr
  accountNumber : PyStr
  recipientName : PyStr
  createdAt : ℕ
  deriving DecidableEq

/-- Whom a staged transfer goes to: the payee of a local transfer, the recipient of PayUp. -/
inductive Target
  | payee (id : ℕ)
  | recipient (id : ℕ)
  deriving DecidableEq

/-- The two tables of staged transfers. -/
inductive Channel
  | localTransfer
  | payup
  deriving DecidableEq

def Target.channel : Target → Channel
  | .payee _ => .localTransfer
  | .recipient _ => .payup

/-- What is confirmed of a transfer. -/
structure Terms where
  userId : ℕ
  target : Target
  amount : ℕ
  reference : PyStr
  deriving DecidableEq

/-- A row of `pending_transfers` or `payup_pending_transfers`. -/
structure PendingTransfer where
  token : PyStr
  terms : Terms
  expiresAt : ℕ
  consumedAt : Option ℕ
  deriving DecidableEq

/-- A completed transaction; `payeeId` is set for local transfers. -/
structure Transaction where
  senderId : ℕ
  recipientId : ℕ
  payeeId : Option ℕ
  amount : ℕ
  reference : PyStr
  createdAt : ℕ
  deriving DecidableEq

inductive Action
  | payeeAdd
  | payeeRemove
  | transfer
  | payupTransfer
  deriving DecidableEq

/-- What an authenticator code is entered for, with what the request says besides the action. -/
inductive Authorization
  | payeeAdd (accountNumber : PyStr)
  | payeeRemove (payee : ℕ)
  | send (terms : Terms)
  deriving DecidableEq

def Authorization.action : Authorization → Action
  | .payeeAdd _ => .payeeAdd
  | .payeeRemove _ => .payeeRemove
  | .send terms =>
      match terms.target.channel with
      | .localTransfer => .transfer
      | .payup => .payupTransfer

/-- `session["pending_payee"]`; `authorized_at` is there whenever the action is. -/
structure PendingPayee where
  nickname : PyStr
  accountNumber : PyStr
  recipientName : PyStr
  authorizationAction : Action
  expiresAt : ℕ
  deriving DecidableEq

/-- `session["pending_payup_recipient"]`. -/
structure PendingRecipient where
  recipientUserId : ℕ
  expiresAt : ℕ
  deriving DecidableEq

structure Items where
  userId : Option ℕ
  pendingPayee : Option PendingPayee
  pendingTransferToken : Option PyStr
  pendingPayupRecipient : Option PendingRecipient
  pendingPayupToken : Option PyStr
  deriving DecidableEq

def Items.empty : Items := ⟨none, none, none, none, none⟩

/-- Each event with the request it belongs to. -/
inductive Event
  | registered (user : ℕ) (accountNumber : Option PyStr)
  /-- An authenticator code of the user was accepted. -/
  | authorized (request user : ℕ) (what : Authorization)
  /-- The payee may be confirmed for a while from now on. -/
  | requested (request user : ℕ) (accountNumber : PyStr) (at_ : ℕ)
  | added (request : ℕ) (payee : Payee) (confirmedAt : ℕ)
  | lookedUp (request user recipient : ℕ) (phoneNumber : PyStr) (at_ : ℕ)
  /-- The transfer may be confirmed with the n-th token for a while from `at_` on. -/
  | staged (request n : ℕ) (terms : Terms) (checkedAt at_ : ℕ)
  /-- The policy let it pass without a code. -/
  | allowed (request : ℕ)
  | sent (request : ℕ) (terms : Terms) (txn : Transaction) (startedAt : ℕ)
  deriving DecidableEq

structure Desk where
  clock : ℕ
  users : List User
  payees : List Payee
  pendingTransfers : List PendingTransfer
  transactions : List Transaction
  nextUser : ℕ
  nextPayee : ℕ
  nextToken : ℕ
  history : List Event

instance : Preorder Desk := laterBy Desk.clock Desk.history

inductive FlowError
  /-- A page that is not the one asked for, with the status. -/
  | refused (status : ℕ)
  | auditWrite
  | integrity
  | operational
  deriving DecidableEq

inductive Question
  | signedIn
  | formValid
  | withinRateLimits
  | codeAccepted
  | accountUsable
  | nicknameReady
  | recipientAvailable
  | withinDailyLimit
  | balanceCovers
  | signed
  | auditWritten
  deriving DecidableEq

/-- The decision of `evaluate_payup_risk`. -/
inductive Risk
  | allow
  | stepUp
  | block
  deriving DecidableEq

inductive Op
  | ask (q : Question)
  | assess
  | time
  | note (e : Event)
  | selectUsers (p : User → Bool)
  | insertUser (u : User)
  | updatePhone (user : ℕ) (phoneNumber : Option PyStr)
  | selectPayees (p : Payee → Bool)
  | insertPayee (request : ℕ) (p : Payee) (confirmedAt : ℕ)
  | deletePayee (payee : ℕ)
  /-- A token is drawn and the row inserted. -/
  | insertPendingTransfer (request : ℕ) (terms : Terms) (checkedAt at_ : ℕ)
  | selectPendingTransfers (p : PendingTransfer → Bool)
  | consume (seen : PendingTransfer) (at_ : ℕ)
  | settle (request : ℕ) (seen : PendingTransfer) (txn : Transaction) (startedAt : ℕ)

def Res : Op → Type
  | .ask _ => Bool
  | .assess => Risk
  | .time => ℕ
  | .selectUsers _ => List User
  | .selectPayees _ => List Payee
  | .insertPendingTransfer _ _ _ _ => PyStr
  | .selectPendingTransfers _ => List PendingTransfer
  | _ => Unit

/-- What the program cannot decide: answers, failures, and how long it takes. -/
structure Choice where
  yes : Bool
  risk : Risk
  fail : Bool
  tick : ℕ

/-! ### Statements -/

/-- `local_transfer_token_verifier` and `payup_transfer_token_verifier`. -/
def Channel.tokenVerifier (cfg : Config) (token : PyStr) : Channel → PyStr
  | .localTransfer => cfg.secrets.hex (.ofString "local-transfer-confirmation:" ++ token)
  | .payup => cfg.secrets.hex (.ofString "payup-transfer-confirmation:" ++ token)

namespace Desk

variable (w : Desk)

def insertUser (u : User) : Except FlowError Unit × Desk :=
  if u.accountNumber.isSome && w.users.any (fun v => v.accountNumber = u.accountNumber) then
    (.error .integrity, w)
  else (.ok (), { w with
    users := { u with id := w.nextUser } :: w.users
    nextUser := w.nextUser + 1
    history := .registered w.nextUser u.accountNumber :: w.history })

/-- `uq_payees_user_account`. -/
def insertPayee (request : ℕ) (p : Payee) (confirmedAt : ℕ) : Except FlowError Unit × Desk :=
  if w.payees.any fun q => q.userId = p.userId && q.accountNumber = p.accountNumber then
    (.error .integrity, w)
  else (.ok (), { w with
    payees := { p with id := w.nextPayee } :: w.payees
    nextPayee := w.nextPayee + 1
    history := .added request { p with id := w.nextPayee } confirmedAt :: w.history })

def insertPendingTransfer (cfg : Config) (request : ℕ) (terms : Terms) (checkedAt at_ : ℕ) :
    Except FlowError PyStr × Desk :=
  let token := cfg.secrets.token w.nextToken
  (.ok token, { w with
    pendingTransfers :=
      ⟨terms.target.channel.tokenVerifier cfg token, terms, at_ + ttl, none⟩ :: w.pendingTransfers
    nextToken := w.nextToken + 1
    history := .staged request w.nextToken terms checkedAt at_ :: w.history })

def consume (seen : PendingTransfer) (at_ : ℕ) : Desk :=
  { w with pendingTransfers := w.pendingTransfers.map fun r =>
      if r.token = seen.token then { r with consumedAt := some at_ } else r }

/-- The commit of a transfer, with its confirmation. -/
def settle (request : ℕ) (seen : PendingTransfer) (txn : Transaction) (startedAt : ℕ) : Desk :=
  { w.consume seen startedAt with
    transactions := txn :: w.transactions
    history := .sent request seen.terms txn startedAt :: w.history }

end Desk

/-- The statements of the database, which may fail instead. -/
def Op.isStatement : Op → Bool
  | .ask _ => false
  | .assess => false
  | .time => false
  | .note _ => false
  | _ => true

def act (cfg : Config) (o : Op) (c : Choice) (w : Desk) : Except FlowError (Res o) × Desk :=
  match o with
  | .ask _ => (.ok c.yes, w)
  | .assess => (.ok c.risk, w)
  | .time => (.ok w.clock, w)
  | .note e => (.ok (), { w with history := e :: w.history })
  | .selectUsers p => (.ok (w.users.filter p), w)
  | .insertUser u => w.insertUser u
  | .updatePhone user phoneNumber => (.ok (), { w with users := w.users.map fun u =>
      if u.id = user then { u with phoneNumber := phoneNumber } else u })
  | .selectPayees p => (.ok (w.payees.filter p), w)
  | .insertPayee request p confirmedAt => w.insertPayee request p confirmedAt
  | .deletePayee payee => (.ok (), { w with payees := w.payees.filter fun p => p.id ≠ payee })
  | .insertPendingTransfer request terms checkedAt at_ =>
      w.insertPendingTransfer cfg request terms checkedAt at_
  | .selectPendingTransfers p => (.ok (w.pendingTransfers.filter p), w)
  | .consume seen at_ => (.ok (), w.consume seen at_)
  | .settle request seen txn startedAt => (.ok (), w.settle request seen txn startedAt)

def exec (cfg : Config) : Exec Op Res FlowError Desk Choice := fun _ o c w =>
  let r := if o.isStatement && c.fail then (.error .operational, w) else act cfg o c w
  some (r.1, { r.2 with clock := r.2.clock + c.tick })

/-- A session that is not stored yet. -/
def blank (_browser : ℕ) (w : Desk) : Items × Desk := (.empty, w)

abbrev Req (α : Type) := Handler Op Res FlowError Items α

def ask (q : Question) : Req Bool := Handler.perform (Op.ask q)

/-- `evaluate_payup_risk`. -/
def assess : Req Risk := Handler.perform Op.assess

def time : Req ℕ := Handler.perform Op.time

def note (e : Event) : Req Unit := Handler.perform (Op.note e)

def selectUsers (p : User → Bool) : Req (List User) := Handler.perform (Op.selectUsers p)

def insertUser (u : User) : Req Unit := Handler.perform (Op.insertUser u)

def updatePhone (user : ℕ) (phoneNumber : Option PyStr) : Req Unit :=
  Handler.perform (Op.updatePhone user phoneNumber)

def selectPayees (p : Payee → Bool) : Req (List Payee) := Handler.perform (Op.selectPayees p)

def insertPayee (request : ℕ) (p : Payee) (confirmedAt : ℕ) : Req Unit :=
  Handler.perform (Op.insertPayee request p confirmedAt)

def deletePayee (payee : ℕ) : Req Unit := Handler.perform (Op.deletePayee payee)

def insertPendingTransfer (request : ℕ) (terms : Terms) (checkedAt at_ : ℕ) : Req PyStr :=
  Handler.perform (Op.insertPendingTransfer request terms checkedAt at_)

def selectPendingTransfers (p : PendingTransfer → Bool) : Req (List PendingTransfer) :=
  Handler.perform (Op.selectPendingTransfers p)

def consume (seen : PendingTransfer) (at_ : ℕ) : Req Unit :=
  Handler.perform (Op.consume seen at_)

def settle (request : ℕ) (seen : PendingTransfer) (txn : Transaction) (startedAt : ℕ) :
    Req Unit :=
  Handler.perform (Op.settle request seen txn startedAt)

def refuse {α : Type} (status : ℕ) : Req α := Handler.throw (.refused status)

/-- Refuse unless the answer is yes. -/
def require (q : Question) (status : ℕ) : Req Unit := do
  let yes ← ask q
  Handler.raiseIf (!yes) (.refused status)

/-! ### Who asks -/

/-- The user of `web_login_required` and `web_not_frozen_required`. -/
def currentUser : Req User := do
  let items ← Handler.get
  require .signedIn 302
  match items.userId with
  | none => refuse 302
  | some id =>
      let found ← selectUsers fun u => u.id = id
      match found with
      | [] => refuse 302
      | user :: _ => pure user

/-- `verify_high_risk_authorization`. -/
def verifyHighRiskAuthorization (request : ℕ) (user : User) (what : Authorization) :
    Req Unit := do
  require .codeAccepted 401
  note (.authorized request user.id what)

/-- `Payee.query.filter_by(id=payee_id, user_id=g.current_user.id).first_or_404()`. -/
def ownPayee (user : User) (payee : ℕ) : Req Payee := do
  let found ← selectPayees fun p => p.id = payee && p.userId = user.id
  match found with
  | [] => refuse 404
  | p :: _ => pure p

/-! ### Payees -/

/-- `_ACCOUNT_RE`. -/
def accountRe (accountNumber : PyStr) : Bool :=
  accountNumber.length = 12 && accountNumber.all fun n => 48 ≤ n && n ≤ 57

/-- The payee of this user with this account number, if there is one. -/
def existingPayees (user : User) (accountNumber : PyStr) : Req (List Payee) :=
  selectPayees fun p => p.userId = user.id && p.accountNumber = accountNumber

def payeesAddSubmit (request : ℕ) (nickname accountNumber : PyStr) : Req Unit := do
  require .withinRateLimits 429
  let user ← currentUser
  require .formValid 400
  let nickname := (PyStr.strip nickname).take 64
  let accountNumber := PyStr.strip accountNumber
  Handler.raiseIf (!accountRe accountNumber) (.refused 400)
  Handler.raiseIf (user.accountNumber = some accountNumber) (.refused 400)
  verifyHighRiskAuthorization request user (.payeeAdd accountNumber)
  let recipients ← selectUsers fun u => u.accountNumber = some accountNumber
  match recipients with
  | [] =>
      require .withinRateLimits 429
      refuse 400
  | recipient :: _ =>
      let existing ← existingPayees user accountNumber
      Handler.raiseIf (existing ≠ []) (.refused 400)
      let now ← time
      note (.requested request user.id accountNumber now)
      let pending : PendingPayee :=
        ⟨nickname, accountNumber, recipient.fullName, .payeeAdd, now + ttl⟩
      Handler.modify fun items => { items with pendingPayee := some pending }

/-- `payees_confirm`, which forgets what has expired. -/
def payeesConfirm : Req Unit := do
  let _ ← currentUser
  let items ← Handler.get
  match items.pendingPayee with
  | none => refuse 302
  | some pending =>
      let now ← time
      if pending.expiresAt < now then
        Handler.modify fun items => { items with pendingPayee := none }
        refuse 302
      else pure ()

/-- The rest of `payees_confirm_submit`, for a payee that was pending. -/
def confirmPayee (request : ℕ) (user : User) (pending : PendingPayee) : Req Unit := do
  let now ← time
  Handler.raiseIf (pending.expiresAt < now) (.refused 302)
  Handler.raiseIf (pending.authorizationAction ≠ .payeeAdd) (.refused 302)
  let formValid ← ask .formValid
  if formValid then
    Handler.raiseIf (user.accountNumber = some pending.accountNumber) (.refused 302)
    let recipients ← selectUsers fun u => u.accountNumber = some pending.accountNumber
    match recipients with
    | [] => refuse 302
    | recipient :: _ =>
        let existing ← existingPayees user pending.accountNumber
        Handler.raiseIf (existing ≠ []) (.refused 302)
        require .auditWritten 503
        let createdAt ← time
        insertPayee request ⟨0, user.id, pending.nickname, pending.accountNumber,
          recipient.fullName, createdAt⟩ now
  else
    Handler.modify fun items => { items with pendingPayee := some pending }
    refuse 400

/-- `payees_confirm_submit`. -/
def payeesConfirmSubmit (request : ℕ) : Req Unit := do
  require .withinRateLimits 429
  let user ← currentUser
  let items ← Handler.get
  Handler.modify fun items => { items with pendingPayee := none }
  match items.pendingPayee with
  | none => refuse 302
  | some pending => confirmPayee request user pending

def payeesCancel : Req Unit := do
  require .withinRateLimits 429
  let _ ← currentUser
  let items ← Handler.get
  Handler.raiseIf (items.pendingPayee = none) (.refused 302)
  require .formValid 302
  Handler.modify fun items => { items with pendingPayee := none }

def payeesRemoveSubmit (request payee : ℕ) : Req Unit := do
  require .withinRateLimits 429
  let user ← currentUser
  let p ← ownPayee user payee
  require .formValid 400
  verifyHighRiskAuthorization request user (.payeeRemove payee)
  require .auditWritten 503
  deletePayee p.id

/-! ### Local transfers -/

section Transfers

variable (cfg : Config)

/-- `(form.reference.data or "").strip()[:128]`. -/
def referenceText (reference : PyStr) : PyStr := reference.strip.take 128

def transferSubmit (request payee amount : ℕ) (reference : PyStr) : Req Unit := do
  require .withinRateLimits 429
  let user ← currentUser
  let p ← ownPayee user payee
  let checkedAt ← time
  Handler.raiseIf (checkedAt < p.createdAt + cfg.cooldown) (.refused 302)
  require .formValid 400
  Handler.raiseIf (!withinBounds amount) (.refused 400)
  require .withinDailyLimit 400
  let terms : Terms := ⟨user.id, .payee payee, amount, referenceText reference⟩
  verifyHighRiskAuthorization request user (.send terms)
  let now ← time
  let token ← insertPendingTransfer request terms checkedAt now
  Handler.modify fun items => { items with pendingTransferToken := some token }

/-- The unconsumed rows of this table and user for a token. -/
def selectUnconsumed (channel : Channel) (user : ℕ) (token : PyStr) (p : Terms → Bool) :
    Req (List PendingTransfer) :=
  selectPendingTransfers fun r => r.terms.target.channel = channel &&
    r.token = channel.tokenVerifier cfg token && r.terms.userId = user && r.consumedAt.isNone &&
    p r.terms

/-- The pending transfer of this user to this payee, for a token. -/
def selectLocal (user payee : ℕ) (token : PyStr) : Req (List PendingTransfer) :=
  selectUnconsumed cfg .localTransfer user token fun terms => terms.target = .payee payee

/-- The pending PayUp transfer of this user for a token. -/
def selectPayup (user : ℕ) (token : PyStr) : Req (List PendingTransfer) :=
  selectUnconsumed cfg .payup user token fun _ => true

/-- `transfer_confirm`, which forgets a token that is of no use. -/
def transferConfirm (payee : ℕ) : Req Unit := do
  let user ← currentUser
  let items ← Handler.get
  match items.pendingTransferToken with
  | none => refuse 302
  | some token =>
      let found ← selectLocal cfg user.id payee token
      let now ← time
      if found.any fun r => now ≤ r.expiresAt then pure ()
      else
        Handler.modify fun items => { items with pendingTransferToken := none }
        refuse 302

/-- `_local_transfer_recipient`, for a payee of the sender. -/
def localTransferRecipient (sender : User) (p : Payee) : Req User := do
  let found ← selectUsers fun u => u.accountNumber = some p.accountNumber
  match found with
  | [] => refuse 400
  | recipient :: _ =>
      Handler.raiseIf (recipient.id = sender.id) (.refused 400)
      require .recipientAvailable 400
      pure recipient

/-- A confirmation that is rejected is consumed. -/
def requireOrConsume (q : Question) (seen : PendingTransfer) (now : ℕ) : Req Unit := do
  let yes ← ask q
  if yes then pure ()
  else
    consume seen now
    refuse 400

/-- The checks of `execute_local_transfer` and `execute_payup_transfer` after the recipient, and
the commit. -/
def book (request : ℕ) (seen : PendingTransfer) (recipient : ℕ) (payee : Option ℕ)
    (startedAt : ℕ) : Req Unit := do
  require .signed 503
  let createdAt ← time
  require .auditWritten 503
  settle request seen ⟨seen.terms.userId, recipient, payee, seen.terms.amount,
    seen.terms.reference.take 128, createdAt⟩ startedAt

def executeLocalTransfer (request : ℕ) (sender : User) (p : Payee) (token : PyStr) :
    Req Unit := do
  require .accountUsable 403
  let recipient ← localTransferRecipient sender p
  let now ← time
  Handler.raiseIf (now < p.createdAt + cfg.cooldown) (.refused 400)
  let found ← selectLocal cfg sender.id p.id token
  match found with
  | [] => refuse 409
  | pending :: _ =>
      Handler.raiseIf (pending.expiresAt < now) (.refused 409)
      if withinBounds pending.terms.amount then
        requireOrConsume .balanceCovers pending now
        requireOrConsume .withinDailyLimit pending now
        book request pending recipient.id (some p.id) now
      else
        consume pending now
        refuse 400

def transferConfirmSubmit (request payee : ℕ) : Req Unit := do
  require .withinRateLimits 429
  let user ← currentUser
  let items ← Handler.get
  Handler.modify fun items => { items with pendingTransferToken := none }
  match items.pendingTransferToken with
  | none => refuse 302
  | some token =>
      require .formValid 302
      let p ← ownPayee user payee
      executeLocalTransfer cfg request user p token

/-! ### PayUp -/

/-- `_payup_nickname_required_response`. -/
def requireNickname : Req Unit := do
  let ready ← ask .nicknameReady
  if ready then pure ()
  else
    Handler.modify fun items => { items with
      pendingPayupRecipient := none
      pendingPayupToken := none }
    refuse 302

def payupSubmit (request : ℕ) (phoneNumber : PyStr) : Req Unit := do
  let user ← currentUser
  requireNickname
  require .formValid 400
  let phoneNumber := PyStr.strip phoneNumber
  require .withinRateLimits 429
  let found ← selectUsers fun u => u.phoneNumber = some phoneNumber
  match found with
  | [] => refuse 400
  | recipient :: _ =>
      Handler.raiseIf (recipient.id = user.id) (.refused 400)
      require .recipientAvailable 400
      let now ← time
      note (.lookedUp request user.id recipient.id phoneNumber now)
      Handler.modify fun items =>
        { items with pendingPayupRecipient := some ⟨recipient.id, now + ttl⟩ }

/-- `_payup_recipient_is_available`. -/
def payupRecipientIsAvailable (user : User) (recipient : ℕ) : Req Bool := do
  let found ← selectUsers fun u => u.id = recipient
  match found with
  | [] => pure false
  | r :: _ =>
      let available ← ask .recipientAvailable
      pure (available && r.id ≠ user.id && r.phoneNumber.isSome)

/-- `_pending_payup_recipient`, with the time of the check. -/
def pendingPayupRecipient (user : User) : Req (Option (ℕ × ℕ)) := do
  let items ← Handler.get
  match items.pendingPayupRecipient with
  | none => pure none
  | some pending =>
      let now ← time
      if pending.expiresAt < now then pure none
      else
        let available ← payupRecipientIsAvailable user pending.recipientUserId
        pure (if available then some (pending.recipientUserId, now) else none)

/-- The recipient of `payup_amount` and `payup_amount_submit`. -/
def requireRecipient (user : User) : Req (ℕ × ℕ) := do
  let recipient ← pendingPayupRecipient user
  match recipient with
  | none =>
      Handler.modify fun items => { items with pendingPayupRecipient := none }
      refuse 302
  | some r => pure r

def payupAmount : Req Unit := do
  let user ← currentUser
  requireNickname
  let _ ← requireRecipient user
  pure ()

def payupAmountSubmit (request amount : ℕ) (reference : PyStr) : Req Unit := do
  let user ← currentUser
  requireNickname
  let (recipient, checkedAt) ← requireRecipient user
  require .formValid 400
  Handler.raiseIf (!withinBounds amount) (.refused 400)
  require .withinDailyLimit 400
  require .balanceCovers 400
  let now ← time
  let token ← insertPendingTransfer request
    ⟨user.id, .recipient recipient, amount, referenceText reference⟩ checkedAt now
  Handler.modify fun items => { items with
    pendingPayupRecipient := none
    pendingPayupToken := some token }

/-- Whether `payup_confirm` shows this row. -/
def payupShown (user : User) (pending : PendingTransfer) : Req Bool := do
  let now ← time
  if pending.expiresAt < now then pure false
  else
    match pending.terms.target with
    | .payee _ => pure false
    | .recipient recipient =>
        let available ← payupRecipientIsAvailable user recipient
        if available then
          let risk ← assess
          pure (risk ≠ .block)
        else pure false

def firstPayupShown (user : User) : List PendingTransfer → Req Bool
  | [] => pure false
  | pending :: _ => payupShown user pending

/-- `payup_confirm`, which forgets a token that is of no use. -/
def payupConfirm : Req Unit := do
  let user ← currentUser
  requireNickname
  let items ← Handler.get
  match items.pendingPayupToken with
  | none => refuse 302
  | some token =>
      let found ← selectPayup cfg user.id token
      let shown ← firstPayupShown user found
      if shown then pure ()
      else
        Handler.modify fun items => { items with pendingPayupToken := none }
        refuse 302

/-- The decision that is made again before the transfer. -/
def reauthorize (request : ℕ) (pending : PendingTransfer) (authorized : Bool) (now : ℕ) :
    Req Unit := do
  let risk ← assess
  if risk = .allow then note (.allowed request)
  else if risk = .stepUp ∧ authorized then pure ()
  else
    consume pending now
    refuse 403

def executePayupTransfer (request : ℕ) (sender : User) (token : PyStr) (authorized : Bool) :
    Req Unit := do
  require .accountUsable 403
  require .nicknameReady 403
  let found ← selectPayup cfg sender.id token
  match found with
  | [] => refuse 409
  | pending :: _ =>
      let now ← time
      Handler.raiseIf (pending.expiresAt < now) (.refused 409)
      match pending.terms.target with
      | .payee _ => refuse 409
      | .recipient recipient =>
          let available ← payupRecipientIsAvailable sender recipient
          if withinBounds pending.terms.amount ∧ available then
            reauthorize request pending authorized now
            requireOrConsume .balanceCovers pending now
            book request pending recipient none now
          else
            consume pending now
            refuse 400

/-- The step-up of `payup_confirm_submit`; without a valid code the token is kept. -/
def payupStepUp (request : ℕ) (user : User) (token : PyStr) (terms : Terms) : Req Bool := do
  let risk ← assess
  if risk = .stepUp then
    Handler.tryCatch (verifyHighRiskAuthorization request user (.send terms)) fun e => do
      Handler.modify fun items => { items with pendingPayupToken := some token }
      Handler.throw e
    pure true
  else pure false

/-- The rest of `payup_confirm_submit`, for a token that was pending. -/
def confirmPayup (request : ℕ) (user : User) (token : PyStr) : Req Unit := do
  require .formValid 302
  let found ← selectPayup cfg user.id token
  match found with
  | [] => refuse 302
  | pending :: _ =>
      match pending.terms.target with
      | .payee _ => refuse 302
      | .recipient recipient =>
          let available ← payupRecipientIsAvailable user recipient
          Handler.raiseIf (!available) (.refused 302)
          require .withinRateLimits 302
          let authorized ← payupStepUp request user token pending.terms
          executePayupTransfer cfg request user token authorized

def payupConfirmSubmit (request : ℕ) : Req Unit := do
  let user ← currentUser
  requireNickname
  let items ← Handler.get
  Handler.modify fun items => { items with pendingPayupToken := none }
  match items.pendingPayupToken with
  | none => refuse 302
  | some token => confirmPayup cfg request user token

end Transfers

/-! ### Requests -/

inductive Request
  | payeesAddSubmit (nickname accountNumber : PyStr)
  | payeesConfirm
  | payeesConfirmSubmit
  | payeesCancel
  | payeesRemoveSubmit (payee : ℕ)
  | transferSubmit (payee amount : ℕ) (reference : PyStr)
  | transferConfirm (payee : ℕ)
  | transferConfirmSubmit (payee : ℕ)
  | payupSubmit (phoneNumber : PyStr)
  | payupAmount
  | payupAmountSubmit (amount : ℕ) (reference : PyStr)
  | payupConfirm
  | payupConfirmSubmit
  | register (u : User)
  | changePhone (user : ℕ) (phoneNumber : Option PyStr)
  /-- A session of this user is established. -/
  | signIn (user : ℕ)
  | signOut

def Request.handler (cfg : Config) (request : ℕ) : Request → Req Unit
  | .payeesAddSubmit nickname accountNumber =>
      Staged.payeesAddSubmit request nickname accountNumber
  | .payeesConfirm => Staged.payeesConfirm
  | .payeesConfirmSubmit => Staged.payeesConfirmSubmit request
  | .payeesCancel => Staged.payeesCancel
  | .payeesRemoveSubmit payee => Staged.payeesRemoveSubmit request payee
  | .transferSubmit payee amount reference =>
      Staged.transferSubmit cfg request payee amount reference
  | .transferConfirm payee => Staged.transferConfirm cfg payee
  | .transferConfirmSubmit payee => Staged.transferConfirmSubmit cfg request payee
  | .payupSubmit phoneNumber => Staged.payupSubmit request phoneNumber
  | .payupAmount => Staged.payupAmount
  | .payupAmountSubmit amount reference => Staged.payupAmountSubmit request amount reference
  | .payupConfirm => Staged.payupConfirm cfg
  | .payupConfirmSubmit => Staged.payupConfirmSubmit cfg request
  | .register u => insertUser u
  | .changePhone user phoneNumber => updatePhone user phoneNumber
  | .signIn user => Handler.modify fun _ => { Items.empty with userId := some user }
  | .signOut => Handler.modify fun _ => .empty

/-- Nobody is registered, and any number of requests of any browsers. -/
def start (cfg : Config) (requests : ℕ → Request) (clock : ℕ) :
    VisitConf Op Res FlowError Items Desk :=
  opening ⟨clock, [], [], [], [], 0, 0, 0, []⟩ fun t => (requests t).handler cfg t

end SitBank.Banking.Staged
