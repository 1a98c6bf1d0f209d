import Mathlib.Data.Int.Notation
import SitBank.Interaction.Machine
import SitBank.Python.Text

/-!
Verification of authenticator codes (`app/auth/services.py`) and the clean-up of
replay records (`app/security/state_cleanup.py`).

A verification reads the clock twice, once to find the time step that the code
belongs to and once for the lifetime of the replay record, and then commits the
record; the commit is the acceptance. Any amount of time can pass in between. The
secret of every user, the HMAC key and the acceptance windows are fixed. The
counters of failed attempts do not bear on acceptance, so of the functions that
update them only their failure is left.
-/

namespace SitBank.Auth

open SitBank.Interaction SitBank.Python

/-! ### Scopes and windows -/

/-- `CUSTOMER_HIGH_RISK_TOTP_REPLAY_SCOPES`. -/
def customerHighRiskTotpReplayScopes : List String :=
  ["account_freeze", "account_topup_approval", "mfa_replace_start", "password_change", "payee_add",
    "payee_remove", "payup_transfer", "profile_email_change_commit",
    "profile_email_change_request", "profile_update", "recovery_codes_regenerate",
    "session_revoke_others", "transaction_authorization", "transfer", "transfer_limits_change"]

/-- `CUSTOMER_HIGH_RISK_TOTP_REPLAY_SCOPE`. -/
def customerHighRiskTotpReplayScope : String := "customer_high_risk_action"

structure TotpConfig where
  totpLoginValidWindow : ℕ
  totpHighRiskValidWindow : ℕ
  /-- The authenticator secret of each user. -/
  secret : ℕ → String
  /-- `pyotp.TOTP(secret, digits=6, interval=30).at(time)`. -/
  totpAt : String → ℤ → String
  /-- `active_hmac_hex(text, length=64)`. -/
  activeHmacHex : String → String
  /-- The characters that `\d` matches. -/
  isDecimal : Char → Bool

def totpReplayScope (scope : String) : String :=
  let normalized := String.ofList (strip scope.toList)
  if normalized ∈ customerHighRiskTotpReplayScopes then customerHighRiskTotpReplayScope
  else normalized

def totpValidWindow (cfg : TotpConfig) (scope : String) (validWindow : Option ℕ) : ℕ :=
  match validWindow with
  | some w => w
  | none =>
      if scope = "mfa_login" then cfg.totpLoginValidWindow else cfg.totpHighRiskValidWindow

/-! ### Time steps -/

/-- Exceptions that a verification raises. -/
inductive TotpError
  | auth
  | typeError
  | integrity
  | operational
  deriving DecidableEq, Repr

def isAscii (s : String) : Bool := s.toList.all fun c => c.toNat < 128

/-- The loop of `_accepted_totp_step`. `hmac.compare_digest` raises for a text
that is not ASCII. -/
def firstMatch (totpAt : ℤ → String) (code : String) : List ℤ → Except TotpError (Option ℤ)
  | [] => .ok none
  | candidate :: candidates =>
      if candidate < 0 then firstMatch totpAt code candidates
      else if !isAscii code then .error .typeError
      else if totpAt (candidate * 30) = code then .ok (some candidate)
      else firstMatch totpAt code candidates

/-- The steps from `current - w` to `current + w`. -/
def candidateSteps (current : ℕ) (w : ℕ) : List ℤ :=
  (List.range (2 * w + 1)).map fun i : ℕ => (current : ℤ) - w + i

def acceptedTotpStep (cfg : TotpConfig) (secret code : String) (now validWindow : ℕ) :
    Except TotpError (Option ℤ) :=
  firstMatch (cfg.totpAt secret) code (candidateSteps (now / 30) validWindow)

/-! ### Replay records -/

structure TotpReplayRecord where
  userId : ℕ
  scope : String
  timeStep : ℤ
  codeDigest : String
  expiresAt : ℕ
  deriving DecidableEq, Repr

/-- For membership in lists of the keys of replay records. -/
instance replayKey_lawfulBEq : LawfulBEq (ℕ × String × ℤ × String) := inferInstance

/-- The columns of `uq_totp_replay_records_user_scope_step_digest`. -/
def TotpReplayRecord.key (r : TotpReplayRecord) : ℕ × String × ℤ × String :=
  (r.userId, r.scope, r.timeStep, r.codeDigest)

/-- The commit of a replay record: who accepted which step, under which scope. -/
structure Acceptance where
  userId : ℕ
  scope : String
  timeStep : ℤ
  deriving DecidableEq, Repr

/-- The clock counts microseconds. -/
structure TotpWorld where
  clock : ℕ
  records : List TotpReplayRecord
  accepted : List Acceptance

/-- `counters` stands for the functions that read and write attempt counters. -/
inductive TotpOp
  | time
  | counters
  | commitReplay (scope : String) (r : TotpReplayRecord)
  | deleteExpired (currentTime limit : ℕ)

def TotpRes : TotpOp → Type
  | .time => ℕ
  | _ => Unit

abbrev TotpReq (α : Type) := Prog TotpOp TotpRes TotpError α

/-- Whether a step fails, and how much time passes after it. -/
structure TotpChoice where
  fail : Bool
  tick : ℕ

/-- `DELETE` of the first `limit` expired records; ids grow with insertion. -/
def deleteExpired (currentTime : ℕ) : ℕ → List TotpReplayRecord → List TotpReplayRecord
  | 0, records => records
  | _, [] => []
  | limit + 1, r :: records =>
      if r.expiresAt ≤ currentTime then deleteExpired currentTime limit records
      else r :: deleteExpired currentTime (limit + 1) records

def totpAct (o : TotpOp) (c : TotpChoice) (w : TotpWorld) :
    Except TotpError (TotpRes o) × TotpWorld :=
  match o with
  | .time => (.ok w.clock, w)
  | .counters => if c.fail then (.error .auth, w) else (.ok (), w)
  | .commitReplay scope r =>
      if c.fail then (.error .operational, w)
      else if r.key ∈ w.records.map TotpReplayRecord.key then (.error .integrity, w)
      else (.ok (), { w with
        records := w.records ++ [r]
        accepted := w.accepted ++ [⟨r.userId, scope, r.timeStep⟩] })
  | .deleteExpired currentTime limit =>
      if c.fail then (.error .operational, w)
      else (.ok (), { w with records := deleteExpired currentTime limit w.records })

def totpExec : Exec TotpOp TotpRes TotpError TotpWorld TotpChoice := fun _ o c w =>
  let r := totpAct o c w
  some (r.1, { r.2 with clock := r.2.clock + c.tick })

def time : TotpReq ℕ := Prog.perform TotpOp.time

def counters : TotpReq Unit := Prog.perform TotpOp.counters

/-! ### Verification -/

inductive TotpVerificationOutcome
  | valid
  | invalid
  | replay
  deriving DecidableEq, Repr

/-- `re.fullmatch(r"\d{6}", code)`. -/
def isSixDigits (cfg : TotpConfig) (code : String) : Bool :=
  code.toList.length = 6 && code.toList.all cfg.isDecimal

def codeDigest (cfg : TotpConfig) (user : ℕ) (replayScope : String) (step : ℤ) (code : String) :
    String :=
  cfg.activeHmacHex s!"totp-replay:{user}:{replayScope}:{step}:{code}"

/-- In seconds. -/
def replayTtl (window : ℕ) : ℕ := max 30 ((window * 2 + 2) * 30)

def whenTracking (trackFailures : Bool) : TotpReq Unit :=
  if trackFailures then counters else pure ()

def invalidCode (trackFailures : Bool) : TotpReq TotpVerificationOutcome := do
  whenTracking trackFailures
  pure .invalid

/-- The replay record is committed; a violated constraint is a replay. -/
def commitReplayRecord (scope : String) (r : TotpReplayRecord) (trackFailures : Bool) :
    TotpReq TotpVerificationOutcome :=
  .op (.commitReplay scope r) fun
    | .error .integrity => pure .replay
    | .error e => .raise e
    | .ok _ => do
        whenTracking trackFailures
        counters
        pure .valid

def verifyTotpSecretForUserOutcome (cfg : TotpConfig) (user : ℕ) (secret code scope : String)
    (validWindow : Option ℕ) (trackFailures : Bool) : TotpReq TotpVerificationOutcome :=
  if !isSixDigits cfg code then invalidCode trackFailures
  else do
    whenTracking trackFailures
    let instant ← time
    let window := totpValidWindow cfg scope validWindow
    match acceptedTotpStep cfg secret code (instant / 1000000) window with
    | .error e => .raise e
    | .ok none => invalidCode trackFailures
    | .ok (some step) => do
        let instant ← time
        commitReplayRecord scope
          ⟨user, totpReplayScope scope, step, codeDigest cfg user (totpReplayScope scope) step code,
            instant + replayTtl window * 1000000⟩ trackFailures

/-- `cleanup_expired_security_state`, for the replay records. -/
def cleanupReplayRecords (limit : ℕ) : TotpReq Unit := do
  let currentTime ← time
  Prog.perform (TotpOp.deleteExpired currentTime limit)

/-- What a caller passes. Every scope in the code is a literal without blanks
around it. -/
structure Verification where
  user : ℕ
  code : String
  scope : String
  trackFailures : Bool
  stripped : strip scope.toList = scope.toList

inductive TotpRequest
  | verify (v : Verification)
  | cleanup (limit : ℕ)

def TotpRequest.run (cfg : TotpConfig) : TotpRequest → TotpReq Unit
  | .verify v => do
      let _ ← verifyTotpSecretForUserOutcome cfg v.user (cfg.secret v.user) v.code v.scope none
        v.trackFailures
      pure ()
  | .cleanup limit => cleanupReplayRecords limit

abbrev TotpConf := Conf TotpOp TotpRes TotpError Unit TotpWorld

/-- Any number of verifications and clean-ups, none of which has started. -/
def totpStart (cfg : TotpConfig) (requests : ℕ → TotpRequest) (clock : ℕ) : TotpConf where
  world := ⟨clock, [], []⟩
  prog t := (requests t).run cfg

end SitBank.Auth
