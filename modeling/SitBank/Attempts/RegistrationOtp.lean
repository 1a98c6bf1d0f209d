import Mathlib.Data.Int.Notation
import SitBank.Interaction.Machine
import SitBank.Python.Text

/-!
Registration codes (`app/auth/registration_otp.py`).

A challenge is the row for one browser session and one email address; the unique
constraint allows one. This is the model of that row, of the requests that issue
and verify its code and of the clean-up of expired rows. No statement locks the
row. `used_at` is not modelled: it is never set to anything but `NULL`.

A resend writes a new code into the same row. To tell the codes apart they are
numbered; `issue` is not a column.
-/

namespace SitBank.Attempts.Registration

open SitBank.Interaction SitBank.Python

/-- `REGISTRATION_OTP_TTL_SECONDS`. -/
def registrationOtpTtlSeconds : ℕ := 5 * 60

/-- `REGISTRATION_OTP_RESEND_COOLDOWN_SECONDS`. -/
def registrationOtpResendCooldownSeconds : ℕ := 60

/-- `REGISTRATION_OTP_MAX_ATTEMPTS`. -/
def registrationOtpMaxAttempts : ℕ := 5

/-- `RegistrationOtpChallenge`; times are in microseconds. -/
structure Challenge where
  id : ℕ
  issue : ℕ
  otpHmac : String
  attemptCount : ℕ
  resendAvailableAt : ℕ
  expiresAt : ℕ
  deriving DecidableEq, Repr

/-- A code has been accepted. `inForce` says that the challenge was stored with
this code and had not expired. -/
structure OtpAcceptance where
  issue : ℕ
  inForce : Bool
  deriving DecidableEq, Repr

/-- `compared` lists the issue of every comparison; `pending` those whose
verification has not committed yet. -/
structure OtpWorld where
  clock : ℕ
  row : Option Challenge
  nextId : ℕ
  nextIssue : ℕ
  compared : List ℕ
  pending : List ℕ
  accepted : List OtpAcceptance
  deriving DecidableEq, Repr

inductive OtpError
  | otp (status : ℕ)
  | staleData
  | integrity
  | operational
  deriving DecidableEq, Repr

inductive OtpQuestion
  | rateLimited
  | emailAllowed
  | existingUser
  | emailSent
  deriving DecidableEq, Repr

/-- Why a challenge is deleted. A request that accepts a code has tested the time of the
challenge at `tested`; the deletion does not depend on it. -/
inductive Deletion
  | expired
  | locked
  | accepted (tested : ℕ)
  | undelivered
  deriving DecidableEq, Repr

inductive OtpOp
  | ask (q : OtpQuestion)
  | time
  | randbelow (bound : ℕ)
  | load
  | compare (seen : Challenge) (submittedHmac : String)
  | count (seen : Challenge) (attempts : ℕ)
  | delete (seen : Challenge) (reason : Deletion)
  | insert (otpHmac : String) (resendAvailableAt expiresAt : ℕ)
  | reissue (seen : Challenge) (otpHmac : String) (resendAvailableAt expiresAt : ℕ)
  | deleteExpired (currentTime : ℕ)

def OtpRes : OtpOp → Type
  | .ask _ => Bool
  | .time => ℕ
  | .randbelow _ => ℕ
  | .load => Option Challenge
  | .compare _ _ => Bool
  | .insert _ _ _ => Challenge
  | .reissue _ _ _ _ => Challenge
  | _ => Unit

abbrev OtpReq (α : Type) := Prog OtpOp OtpRes OtpError α

structure OtpChoice where
  yes : Bool
  number : ℕ
  fail : Bool
  tick : ℕ

/-! ### Statements -/

namespace OtpWorld

variable (w : OtpWorld)

/-- `UPDATE … SET attempt_count` and `COMMIT`. -/
def count (seen : Challenge) (attempts : ℕ) : Except OtpError Unit × OtpWorld :=
  match w.row with
  | some r =>
      if r.id = seen.id then
        (.ok (), { w with
          row := some { r with attemptCount := attempts }
          pending := w.pending.erase seen.issue })
      else (.error .staleData, w)
  | none => (.error .staleData, w)

/-- `DELETE` and `COMMIT`; that there was no row to delete is only a warning. -/
def delete (seen : Challenge) (reason : Deletion) : OtpWorld :=
  { w with
    row := w.row.filter fun r => r.id ≠ seen.id
    accepted :=
      match reason with
      | .accepted _ => w.accepted ++ [⟨seen.issue,
          w.row.any fun r => r.issue = seen.issue && decide (w.clock < r.expiresAt)⟩]
      | _ => w.accepted }

/-- `INSERT` and `COMMIT`. -/
def insert (otpHmac : String) (resendAvailableAt expiresAt : ℕ) :
    Except OtpError Challenge × OtpWorld :=
  if w.row.isSome then (.error .integrity, w)
  else
    let r : Challenge := ⟨w.nextId, w.nextIssue, otpHmac, 0, resendAvailableAt, expiresAt⟩
    (.ok r, { w with row := some r, nextId := w.nextId + 1, nextIssue := w.nextIssue + 1 })

/-- `UPDATE` of a loaded challenge with a new code and `COMMIT`; `attempt_count` is
among the columns only if it was not 0 already. -/
def reissue (seen : Challenge) (otpHmac : String) (resendAvailableAt expiresAt : ℕ) :
    Except OtpError Challenge × OtpWorld :=
  match w.row with
  | some r =>
      if r.id = seen.id then
        let r' : Challenge := ⟨r.id, w.nextIssue, otpHmac,
          if seen.attemptCount = 0 then r.attemptCount else 0, resendAvailableAt, expiresAt⟩
        (.ok r', { w with row := some r', nextIssue := w.nextIssue + 1 })
      else (.error .staleData, w)
  | none => (.error .staleData, w)

end OtpWorld

def otpAct (o : OtpOp) (c : OtpChoice) (w : OtpWorld) : Except OtpError (OtpRes o) × OtpWorld :=
  match o with
  | .ask _ => (.ok c.yes, w)
  | .time => (.ok w.clock, w)
  | .randbelow bound => (.ok (c.number % bound), w)
  | .load => (.ok w.row, w)
  | .compare seen submittedHmac =>
      (.ok (decide (seen.otpHmac = submittedHmac)), { w with
        compared := w.compared ++ [seen.issue]
        pending := w.pending ++ [seen.issue] })
  | .count seen attempts => if c.fail then (.error .operational, w) else w.count seen attempts
  | .delete seen reason =>
      if c.fail then (.error .operational, w) else (.ok (), w.delete seen reason)
  | .insert otpHmac resendAvailableAt expiresAt =>
      if c.fail then (.error .operational, w) else w.insert otpHmac resendAvailableAt expiresAt
  | .reissue seen otpHmac resendAvailableAt expiresAt =>
      if c.fail then (.error .operational, w)
      else w.reissue seen otpHmac resendAvailableAt expiresAt
  | .deleteExpired currentTime =>
      if c.fail then (.error .operational, w)
      else (.ok (), { w with row := w.row.filter fun r => currentTime < r.expiresAt })

def ask (q : OtpQuestion) : OtpReq Bool := Prog.perform (OtpOp.ask q)

def utcnow : OtpReq ℕ := Prog.perform OtpOp.time

def randbelow (bound : ℕ) : OtpReq ℕ := Prog.perform (OtpOp.randbelow bound)

def select : OtpReq (Option Challenge) := Prog.perform OtpOp.load

def compareDigest (seen : Challenge) (submittedHmac : String) : OtpReq Bool :=
  Prog.perform (OtpOp.compare seen submittedHmac)

def count (seen : Challenge) (attempts : ℕ) : OtpReq Unit :=
  Prog.perform (OtpOp.count seen attempts)

def delete (seen : Challenge) (reason : Deletion) : OtpReq Unit :=
  Prog.perform (OtpOp.delete seen reason)

def insert (otpHmac : String) (resendAvailableAt expiresAt : ℕ) : OtpReq Challenge :=
  Prog.perform (OtpOp.insert otpHmac resendAvailableAt expiresAt)

def reissue (seen : Challenge) (otpHmac : String) (resendAvailableAt expiresAt : ℕ) :
    OtpReq Challenge :=
  Prog.perform (OtpOp.reissue seen otpHmac resendAvailableAt expiresAt)

def otpError {α : Type} (status : ℕ) : OtpReq α := .raise (.otp status)

/-! ### Requests -/

/-- `otpHmac` is `_otp_hmac` for the email address of the challenge. -/
structure OtpConfig where
  otpHmac : String → String

/-- `_load_otp_challenge`; a challenge comes with the time of its test. -/
def loadOtpChallenge : OtpReq (Option (Challenge × ℕ)) := do
  match ← select with
  | none => pure none
  | some challenge =>
      let now ← utcnow
      if challenge.expiresAt ≤ now then
        delete challenge .expired
        pure none
      else pure (some (challenge, now))

/-- `f"{number:06d}"`. -/
def sixDigits (number : ℕ) : String :=
  String.ofList (List.replicate (6 - (Nat.toDigits 10 number).length) '0' ++ Nat.toDigits 10 number)

/-- `int((resend_available_at - now).total_seconds())`. -/
def retryAfter (challenge : Challenge) (now : ℕ) : ℤ :=
  ((challenge.resendAvailableAt : ℤ) - now).tdiv 1000000

def storeOtp (challenge : Option Challenge) (otpHmac : String) (now : ℕ) : OtpReq Challenge :=
  let resendAvailableAt := now + registrationOtpResendCooldownSeconds * 1000000
  let expiresAt := now + registrationOtpTtlSeconds * 1000000
  match challenge with
  | none => insert otpHmac resendAvailableAt expiresAt
  | some challenge => reissue challenge otpHmac resendAvailableAt expiresAt

/-- The code is stored before it is sent. -/
def sendOtp (cfg : OtpConfig) (challenge : Option Challenge) (now : ℕ) : OtpReq Unit := do
  let number ← randbelow 1000000
  let challenge ← storeOtp challenge (cfg.otpHmac (sixDigits number)) now
  if ← ask .emailSent then pure ()
  else
    delete challenge .undelivered
    otpError 503

def replaceOtp (cfg : OtpConfig) (now : ℕ) : Option Challenge → OtpReq Unit
  | none => sendOtp cfg none now
  | some challenge =>
      if 0 < retryAfter challenge now then otpError 429
      else sendOtp cfg (some challenge) now

def requestRegistrationOtp (cfg : OtpConfig) : OtpReq Unit := do
  if ← ask .rateLimited then otpError 429
  else if ← ask .emailAllowed then
    if ← ask .existingUser then pure ()
    else
      let now ← utcnow
      let found ← loadOtpChallenge
      replaceOtp cfg now (found.map Prod.fst)
  else otpError 400

def wrongOtp (challenge : Challenge) : OtpReq Unit := do
  if registrationOtpMaxAttempts ≤ challenge.attemptCount + 1 then
    delete challenge .locked
    otpError 400
  else
    count challenge (challenge.attemptCount + 1)
    otpError 400

def checkOtp (cfg : OtpConfig) (otpCode : String) : Option (Challenge × ℕ) → OtpReq Unit
  | none => otpError 400
  | some (challenge, tested) => do
      if ← compareDigest challenge (cfg.otpHmac (String.ofList (strip otpCode.toList))) then
        delete challenge (.accepted tested)
      else wrongOtp challenge

def verifyRegistrationOtp (cfg : OtpConfig) (otpCode : String) : OtpReq Unit := do
  if ← ask .emailAllowed then
    let found ← loadOtpChallenge
    checkOtp cfg otpCode found
  else otpError 400

/-- `cleanup_expired_security_state`, for the challenges. -/
def cleanupChallenges : OtpReq Unit := do
  let currentTime ← utcnow
  Prog.perform (OtpOp.deleteExpired currentTime)

inductive OtpRequest
  | request
  | verify (otpCode : String)
  | cleanup

def OtpRequest.handler (cfg : OtpConfig) : OtpRequest → OtpReq Unit
  | .request => requestRegistrationOtp cfg
  | .verify otpCode => verifyRegistrationOtp cfg otpCode
  | .cleanup => cleanupChallenges

end SitBank.Attempts.Registration
