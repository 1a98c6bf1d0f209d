import SitBank.Interaction.Machine
import SitBank.Interaction.RowLock
import SitBank.Security.LedgerSignatures

/-!
Reservations of public transactions (`app/banking/services.py`), for one user and one
idempotency key, with any number of sessions.

The fingerprint of the key does not depend on the HMAC keys, so that all calls for the
key meet in one row, under its lock or at its unique constraint. A `User` is loaded
together with its reservations, and an instance that a session already has keeps its
values when `SELECT … FOR UPDATE` returns the row again. A call can therefore decide
about an older version of the row than the one it has locked.

The time of a call is any number: the clock need not be monotone. Audit events are not
kept. `audit_reference` needs the keys of the session HMAC; they are part of the world
because nothing is rolled back when they are missing. The cleanup of expired rows is not
one of the calls.
-/

namespace SitBank.Banking.PublicReservations

open SitBank.Interaction SitBank.Security SitBank.Python

/-! ### The row -/

inductive ReservationStatus
  | reserved
  | completed
  | failed
  deriving DecidableEq, Repr

structure Reservation where
  hmacKeyId : String
  keyVerifier : String
  payloadVerifier : String
  status : ReservationStatus
  resultReference : Option String
  createdAt : ℤ
  updatedAt : ℤ
  expiresAt : ℤ
  deriving DecidableEq, Repr

/-- The stored row after an `UPDATE` by a session that has loaded `loaded`. -/
def Reservation.merge (loaded assigned stored : Reservation) : Reservation where
  hmacKeyId := written loaded.hmacKeyId assigned.hmacKeyId stored.hmacKeyId
  keyVerifier := written loaded.keyVerifier assigned.keyVerifier stored.keyVerifier
  payloadVerifier :=
    written loaded.payloadVerifier assigned.payloadVerifier stored.payloadVerifier
  status := written loaded.status assigned.status stored.status
  resultReference :=
    written loaded.resultReference assigned.resultReference stored.resultReference
  createdAt := written loaded.createdAt assigned.createdAt stored.createdAt
  updatedAt := written loaded.updatedAt assigned.updatedAt stored.updatedAt
  expiresAt := written loaded.expiresAt assigned.expiresAt stored.expiresAt

/-- `flushed` is the version of the row that its session has not committed yet, `cache`
the instance of each session, and `writes` the committed versions with their sessions. -/
structure World where
  row : Option Reservation
  holder : Option ℕ
  flushed : Option (ℕ × Reservation)
  cache : ℕ → Option Reservation
  sessionKeys : Bool
  writes : List (ℕ × Reservation)

/-! ### Statements -/

inductive PublicError
  | auth (message : String) (statusCode : ℕ)
  | integrity
  | audit
  | operational
  | runtime
  deriving DecidableEq, Repr

inductive Question
  | sessionDirty
  | committedBefore
  deriving DecidableEq, Repr

inductive PublicOp
  | ask (q : Question)
  | clock
  /-- The user is loaded, and its reservations with it. -/
  | loadUser
  | selectForUpdate
  | insert (record : Reservation)
  | update (loaded assigned : Reservation)
  | auditReference
  /-- The required audit event is flushed, and the transaction committed. -/
  | commitReserved
  | commit
  | rollback

def PublicRes : PublicOp → Type
  | .ask _ => Bool
  | .clock => ℤ
  | .selectForUpdate => Option Reservation
  | _ => Unit

abbrev PublicReq (α : Type) := Prog PublicOp PublicRes PublicError α

structure PublicChoice where
  yes : Bool
  fail : Bool
  time : ℤ

namespace World

variable (w : World) (t : ℕ)

/-- Another session has flushed the row. -/
def flushWaits : Bool := waits (w.flushed.map Prod.fst) t

/-- The end of a transaction: locks are gone, and instances are expired. -/
def release (flushed : Option (ℕ × Reservation)) : World :=
  { w with
    holder := released w.holder t
    flushed := flushed
    cache := fun u => if u = t then none else w.cache u }

def rollback : World :=
  match w.flushed with
  | some (u, r) => w.release t (if u = t then none else some (u, r))
  | none => w.release t none

def commit : World :=
  match w.flushed with
  | some (u, r) =>
      if u = t then { w.release t none with row := some r, writes := w.writes ++ [(t, r)] }
      else w.release t (some (u, r))
  | none => w.release t none

/-- What the session gets for the row: the instance it has, if it has one. -/
def identity (r : Reservation) : Reservation := (w.cache t).getD r

def load (r : Reservation) : World :=
  { w with cache := fun u => if u = t then some (w.identity t r) else w.cache u }

end World

def publicExec : Exec PublicOp PublicRes PublicError World PublicChoice := fun t o c w =>
  match o with
  | .ask _ => some (.ok c.yes, w)
  | .clock => some (.ok c.time, w)
  | .loadUser =>
      match w.row with
      | none => some (.ok (), w)
      | some r => some (.ok (), w.load t r)
  | .selectForUpdate =>
      match w.row with
      | none => if c.fail then some (.error .operational, w) else some (.ok none, w)
      | some r =>
          if c.fail then some (.error .operational, w)
          else if waits w.holder t then none
          else some (.ok (some (w.identity t r)), { w.load t r with holder := some t })
  | .insert record =>
      if c.fail then some (.error .operational, w)
      else if w.flushWaits t then none
      else if w.row.isSome then some (.error .integrity, w)
      else some (.ok (), { w with flushed := some (t, record) })
  | .update loaded assigned =>
      if c.fail then some (.error .operational, w)
      else
        match w.row with
        | none => some (.error .operational, w)
        | some r => some (.ok (), { w with flushed := some (t, loaded.merge assigned r) })
  | .auditReference =>
      if w.sessionKeys then some (.ok (), w) else some (.error .runtime, w)
  | .commitReserved => if c.fail then some (.error .audit, w) else some (.ok (), w.commit t)
  | .commit => some (.ok (), w.commit t)
  | .rollback => some (.ok (), w.rollback t)

def ask (q : Question) : PublicReq Bool := Prog.perform (PublicOp.ask q)

def clock : PublicReq ℤ := Prog.perform PublicOp.clock

def loadUser : PublicReq Unit := Prog.perform PublicOp.loadUser

def selectForUpdate : PublicReq (Option Reservation) := Prog.perform PublicOp.selectForUpdate

def insert (record : Reservation) : PublicReq Unit := Prog.perform (PublicOp.insert record)

def update (loaded assigned : Reservation) : PublicReq Unit :=
  Prog.perform (PublicOp.update loaded assigned)

def auditReference : PublicReq Unit := Prog.perform PublicOp.auditReference

def commitReserved : PublicReq Unit := Prog.perform PublicOp.commitReserved

def commit : PublicReq Unit := Prog.perform PublicOp.commit

def rollback : PublicReq Unit := Prog.perform PublicOp.rollback

/-! ### Keys -/

/-- `_public_transaction_hmac_keyring`; `none` is the refusal with status 503. -/
def publicTransactionHmacKeyring (config : LedgerConfig) :
    Option (String × List (String × List UInt8)) :=
  match config.keyring with
  | none => none
  | some configured =>
      if config.activeKeyId ∉ configured.map Prod.fst then none
      else if configured.any badKey then none
      else some (config.activeKeyId,
        configured.filterMap fun entry => entry.2.map fun key => (entry.1, key))

section Calls

-- HMAC-SHA-256 of a key and a message.
variable (hmac : List UInt8 → List UInt8 → List UInt8)

/-- The subkey is derived from the key of the ring. -/
def publicTransactionHmacHex (keyring : List (String × List UInt8)) (keyId message : String) :
    Option String :=
  (keyring.lookup keyId).map fun key =>
    hexdigest (hmac (hmac key (encodeUtf8 "sitbank-public-transaction-idempotency-v1".toList))
      (encodeUtf8 message.toList))

/-! ### Calls -/

/-- A call of `validate_public_transaction_payload`, after the payload has been normalised
to a key and a message. -/
structure PublicCall where
  payloadValid : Bool
  storeGiven : Bool
  userKnown : Bool
  idempotencyKey : String
  payloadMessage : String
  now : Option ℤ
  config : LedgerConfig

def unavailableMessage : String := "Transaction request cannot be processed."

def replayMessage : String := "Transaction request has already been accepted."

def unavailable {α : Type} : PublicReq α := .raise (.auth unavailableMessage 503)

/-- `_audit_public_idempotency_failure`: the rollback, and the commit of the audit event. -/
def auditPublicIdempotencyFailure : PublicReq Unit := do
  rollback
  commit

/-- `_public_transaction_idempotency_ttl_seconds`; the setting is `none` when it is not a
number. -/
def publicTransactionIdempotencyTtlSeconds (setting : Option ℤ) : Option ℤ :=
  match setting with
  | none => none
  | some value => if value < 60 ∨ 7 * 24 * 60 * 60 < value then none else some value

/-- What `_reserve_public_transaction_idempotency` knows when it looks for the row. Times
are in microseconds. -/
structure Prepared where
  activeKeyId : String
  keyring : List (String × List UInt8)
  keyMessage : String
  payloadMessage : String
  keyVerifier : String
  payloadVerifier : String
  currentTime : ℤ
  ttl : ℤ

/-- The values of a reservation that is made now. -/
def Prepared.record (p : Prepared) : Reservation where
  hmacKeyId := p.activeKeyId
  keyVerifier := p.keyVerifier
  payloadVerifier := p.payloadVerifier
  status := .reserved
  resultReference := none
  createdAt := p.currentTime
  updatedAt := p.currentTime
  expiresAt := p.currentTime + p.ttl

/-- The reservation is still valid: which refusal it is depends on the keys. -/
def rejectReservation (record : Reservation) (p : Prepared) : PublicReq Reservation := do
  auditPublicIdempotencyFailure
  match publicTransactionHmacHex hmac p.keyring record.hmacKeyId p.keyMessage with
  | none => unavailable
  | some expectedKeyVerifier =>
      if record.keyVerifier ≠ expectedKeyVerifier then unavailable
      else if publicTransactionHmacHex hmac p.keyring record.hmacKeyId p.payloadMessage =
          some record.payloadVerifier then
        .raise (.auth replayMessage 409)
      else .raise (.auth "Idempotency key conflicts with an earlier request." 409)

/-- `_reuse_or_reject_public_transaction_reservation`. -/
def reuseOrReject (record : Reservation) (p : Prepared) : PublicReq Reservation :=
  if record.expiresAt ≤ p.currentTime then do
    update record p.record
    pure p.record
  else rejectReservation hmac record p

/-- The end of `_reserve_public_transaction_idempotency`, from the locked lookup on. -/
def reserveRow (p : Prepared) : PublicReq Reservation := do
  match ← selectForUpdate with
  | some record => reuseOrReject hmac record p
  | none =>
      ((insert p.record).bind fun _ => pure p.record).tryCatch fun e =>
        match e with
        | .integrity => do
            rollback
            match ← selectForUpdate with
            | none => unavailable
            | some record => reuseOrReject hmac record p
        | e => .raise e

def prepare (setting : Option ℤ) (call : PublicCall) (currentTime : ℤ) : Option Prepared := do
  let ttl ← publicTransactionIdempotencyTtlSeconds setting
  let (activeKeyId, keyring) ← publicTransactionHmacKeyring call.config
  let keyMessage := "key:" ++ call.idempotencyKey
  let keyVerifier ← publicTransactionHmacHex hmac keyring activeKeyId keyMessage
  let payloadVerifier ← publicTransactionHmacHex hmac keyring activeKeyId call.payloadMessage
  some ⟨activeKeyId, keyring, keyMessage, call.payloadMessage, keyVerifier, payloadVerifier,
    currentTime, ttl * 1000000⟩

def readClock (now : Option ℤ) : PublicReq ℤ :=
  match now with
  | some time => pure time
  | none => clock

/-- `_reserve_public_transaction_idempotency`. -/
def reservePublicTransactionIdempotency (setting : Option ℤ) (call : PublicCall) :
    PublicReq Reservation := do
  if call.userKnown then
    let currentTime ← readClock call.now
    match prepare hmac setting call currentTime with
    | none => unavailable
    | some p => reserveRow hmac p
  else
    auditPublicIdempotencyFailure
    unavailable

/-- The audit event of a success, and the commit. -/
def finishReservation : PublicReq Unit := do
  auditReference
  commitReserved.tryCatch fun _ => do
    rollback
    unavailable

/-- `validate_public_transaction_payload`; the time of the reservation is returned. -/
def validatePublicTransactionPayload (setting : Option ℤ) (call : PublicCall) : PublicReq ℤ := do
  if ← ask .sessionDirty then
    auditPublicIdempotencyFailure
    unavailable
  else if !call.payloadValid then
    commit
    .raise (.auth "Invalid transaction request" 400)
  else if call.storeGiven then
    auditPublicIdempotencyFailure
    unavailable
  else
    let record ← reservePublicTransactionIdempotency hmac setting call
    finishReservation
    pure record.createdAt

/-- Other work of the request that commits. -/
def earlierWork : PublicReq Unit := do
  if ← ask .committedBefore then commit else pure ()

/-- A request: the user is loaded, something may be committed, and the call is made. The
session is committed at the end of every request. -/
def serve (setting : Option ℤ) (call : PublicCall) : PublicReq ℤ := do
  loadUser
  earlierWork
  let reservedAt ← (validatePublicTransactionPayload hmac setting call).tryCatch fun e => do
    commit
    .raise e
  commit
  pure reservedAt

abbrev PublicConf := Conf PublicOp PublicRes PublicError ℤ World

def publicStart (row : Option Reservation) (sessionKeys : Bool) (setting : Option ℤ)
    (calls : ℕ → PublicCall) : PublicConf where
  world := ⟨row, none, none, fun _ => none, sessionKeys, []⟩
  prog t := serve hmac setting (calls t)

end Calls

end SitBank.Banking.PublicReservations
